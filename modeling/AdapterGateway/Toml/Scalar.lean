import AdapterGateway.Decimal.Literal
import AdapterGateway.Toml.Node
/-!
# TOML scalars

Strings in their four spellings, numbers, dates and times. A scanner takes what it reads off the
front of the text and comes back with the rest, or with nothing if the text does not fit.
-/
namespace AdapterGateway.Toml
open Decimal

/-- Takes something off the front of a text. -/
abbrev Scanner (α : Type) := List Char → Option (α × List Char)

/-- Space and tab. -/
def isWhite (c : Char) : Bool := c == ' ' || c == '\t'

/-- The text behind leading spaces and tabs. -/
def skipWhite (cs : List Char) : List Char := cs.dropWhile isWhite

/-- Whether a character may stand for itself in comments and strings. -/
def isPlain (c : Char) : Bool := c == '\t' || (0x20 ≤ c.toNat && c.toNat != 0x7F)

/-- Takes an end of line off, if there is one. -/
def newline? : List Char → Option (List Char)
  | '\n' :: rest => some rest
  | '\r' :: '\n' :: rest => some rest
  | _ => none

def hexValue? (c : Char) : Option Nat :=
  if c.isDigit then some (c.toNat - 0x30)
  else if 'a' ≤ c ∧ c ≤ 'f' then some (c.toNat - 0x61 + 10)
  else if 'A' ≤ c ∧ c ≤ 'F' then some (c.toNat - 0x41 + 10)
  else none

def hexDigits : Nat → Nat → Scanner Nat
  | 0, value, cs => some (value, cs)
  | _ + 1, _, [] => none
  | n + 1, value, c :: rest => match hexValue? c with
    | some d => hexDigits n (value * 16 + d) rest
    | none => none

/-- The character with a code point, unless it is a surrogate or too large. -/
def scalar? (n : Nat) : Option Char :=
  if n < 0xD800 ∨ (0xDFFF < n ∧ n < 0x110000) then some (Char.ofNat n) else none

def escape : Scanner Char
  | [] => none
  | c :: rest =>
    if c = 'b' then some ('\x08', rest)
    else if c = 't' then some ('\t', rest)
    else if c = 'n' then some ('\n', rest)
    else if c = 'f' then some ('\x0c', rest)
    else if c = 'r' then some ('\r', rest)
    else if c = '"' then some ('"', rest)
    else if c = '\\' then some ('\\', rest)
    else if c = 'u' then
      (hexDigits 4 0 rest).bind fun (n, rest) => (scalar? n).map (·, rest)
    else if c = 'U' then
      (hexDigits 8 0 rest).bind fun (n, rest) => (scalar? n).map (·, rest)
    else none

/-! ## Strings -/

/-- Reads a string in double quotes behind the opening one; `done` is reversed. -/
def basicString (fuel : Nat) (done : List Char) : Scanner String
  | [] => none
  | c :: rest =>
    if c = '"' then some (String.ofList done.reverse, rest)
    else match fuel with
      | 0 => none
      | fuel + 1 =>
        if c = '\\' then match escape rest with
          | some (e, rest) => basicString fuel (e :: done) rest
          | none => none
        else if isPlain c then basicString fuel (c :: done) rest
        else none

/-- Reads a string in single quotes behind the opening one; `done` is reversed. -/
def literalString (done : List Char) : Scanner String
  | [] => none
  | c :: rest =>
    if c = '\'' then some (String.ofList done.reverse, rest)
    else if isPlain c then literalString (c :: done) rest
    else none

/-- The text behind blank lines and the blanks that follow them. -/
def skipBlankLines : Nat → List Char → List Char
  | 0, cs => cs
  | fuel + 1, cs =>
    let cs := skipWhite cs
    match newline? cs with
    | some rest => skipBlankLines fuel rest
    | none => cs

/-- Reads a string in three quotes behind the opening ones; `done` is reversed. Up to two more
quotes may stand right before the closing three. A backslash at the end of a line joins it to the
next text, if backslashes mean something. -/
def multilineString (quote : Char) (escapes : Bool) : Nat → List Char → Scanner String
  | 0, _, _ => none
  | fuel + 1, done, cs =>
    let quotes := (cs.takeWhile (· == quote)).length
    if 3 ≤ quotes then
      let inside := min (quotes - 3) 2
      some (String.ofList (List.replicate inside quote ++ done).reverse, cs.drop (inside + 3))
    else match cs with
      | [] => none
      | c :: rest =>
        if escapes && c == '\\' then
          match newline? (skipWhite rest) with
          | some after => multilineString quote escapes fuel done
              (skipBlankLines fuel after)
          | none => match escape rest with
            | some (e, rest) => multilineString quote escapes fuel (e :: done) rest
            | none => none
        else match newline? cs with
          | some rest => multilineString quote escapes fuel ('\n' :: done) rest
          | none => if isPlain c then multilineString quote escapes fuel (c :: done) rest else none

/-- Reads a string in one line. `fuel` is at least the number of characters. -/
def quotedString (fuel : Nat) : Scanner String
  | '"' :: rest => basicString fuel [] rest
  | '\'' :: rest => literalString [] rest
  | _ => none

/-- Reads a string of any kind. A line end right behind three opening quotes does not count. -/
def anyString (fuel : Nat) (cs : List Char) : Option (String × List Char) :=
  match cs with
  | '"' :: '"' :: '"' :: rest =>
    multilineString '"' true fuel [] ((newline? rest).getD rest)
  | '\'' :: '\'' :: '\'' :: rest =>
    multilineString '\'' false fuel [] ((newline? rest).getD rest)
  | _ => quotedString fuel cs

/-! ## Numbers -/

/-- Digits behind the first, which single underscores may separate; `done` is reversed. -/
def moreDigits (isDigit : Char → Bool) (done : List Char) : List Char → List Char × List Char
  | '_' :: c :: rest =>
    if isDigit c then moreDigits isDigit (c :: done) rest else (done.reverse, '_' :: c :: rest)
  | c :: rest =>
    if isDigit c then moreDigits isDigit (c :: done) rest else (done.reverse, c :: rest)
  | [] => (done.reverse, [])

/-- Takes at least one digit off, without the underscores between digits. -/
def digits (isDigit : Char → Bool) : Scanner (List Char)
  | c :: rest => if isDigit c then some (moreDigits isDigit [c] rest) else none
  | [] => none

/-- Takes a decimal number without leading zeros off. -/
def decimalDigits : Scanner (List Char)
  | '0' :: rest => some (['0'], rest)
  | cs => digits Char.isDigit cs

def takeSign : List Char → Option Bool × List Char
  | '-' :: rest => (some true, rest)
  | '+' :: rest => (some false, rest)
  | cs => (none, cs)

def valueIn (base : Nat) (ds : List Char) : Nat :=
  ds.foldl (fun n c => n * base + (hexValue? c).getD 0) 0

def fitting (i : Int) : Option Node :=
  if Int64.minValue.toInt ≤ i ∧ i ≤ Int64.maxValue.toInt then some (.integer i) else none

/-- Reads an integer. Those in other bases have no sign. -/
def integer (cs : List Char) : Option (Node × List Char) :=
  let based (base : Nat) (isDigit : Char → Bool) (rest : List Char) :=
    (digits isDigit rest).bind fun (ds, rest) => (fitting (valueIn base ds)).map (·, rest)
  match cs with
  | '0' :: 'x' :: rest => based 16 (fun c => (hexValue? c).isSome) rest
  | '0' :: 'o' :: rest => based 8 (fun c => '0' ≤ c && c ≤ '7') rest
  | '0' :: 'b' :: rest => based 2 (fun c => c == '0' || c == '1') rest
  | _ =>
    let (sign, rest) := takeSign cs
    (decimalDigits rest).bind fun (ds, rest) =>
      let n : Int := valueIn 10 ds
      (fitting (if sign = some true then -n else n)).map (·, rest)

def exponent : Scanner Int
  | c :: rest =>
    if c = 'e' ∨ c = 'E' then
      let (sign, rest) := takeSign rest
      (digits Char.isDigit rest).map fun (ds, rest) =>
        let n : Int := valueIn 10 ds
        (if sign = some true then -n else n, rest)
    else none
  | [] => none

/-- A number with a fraction, an exponent or both. One beyond the largest double is refused, one
below the least is minus infinity. -/
def decimalReal (negative : Bool) (cs : List Char) : Option (Node × List Char) := do
  let (whole, rest) ← decimalDigits cs
  let (fraction, e, rest) ← match rest with
    | '.' :: rest => do
      let (fraction, rest) ← digits Char.isDigit rest
      match exponent rest with
      | some (e, rest) => pure (fraction, e, rest)
      | none => pure (fraction, (0 : Int), rest)
    | rest => do
      let (e, rest) ← exponent rest
      pure ([], e, rest)
  let x := Binary64.ofDecimal negative (valueIn 10 (whole ++ fraction)) (e - fraction.length)
  if x = Binary64.infinity false then none else some (.real x, rest)

def real (cs : List Char) : Option (Node × List Char) :=
  let (sign, rest) := takeSign cs
  let negative := sign = some true
  match rest with
  | 'i' :: 'n' :: 'f' :: rest => some (.real (Binary64.infinity negative), rest)
  | 'n' :: 'a' :: 'n' :: rest =>
    some (.real (if negative then Binary64.nan.neg else Binary64.nan), rest)
  | _ => decimalReal negative rest

/-! ## Dates and times -/

/-- Takes exactly `n` decimal digits off, which stand for a number in the given range. -/
def fixedDigits (n low high : Nat) (cs : List Char) : Option (String × List Char) :=
  let ds := cs.take n
  let value := valueIn 10 ds
  if ds.length = n ∧ ds.all Char.isDigit ∧ low ≤ value ∧ value ≤ high then
    some (String.ofList ds, cs.drop n)
  else none

def mark (c : Char) : List Char → Option (List Char)
  | d :: rest => if c = d then some rest else none
  | [] => none

def daysIn (year month : Nat) : Nat :=
  if month = 2 then
    if year % 4 = 0 ∧ (year % 100 ≠ 0 ∨ year % 400 = 0) then 29 else 28
  else if month = 4 ∨ month = 6 ∨ month = 9 ∨ month = 11 then 30
  else 31

def date (cs : List Char) : Option (String × List Char) := do
  let (year, rest) ← fixedDigits 4 0 9999 cs
  let rest ← mark '-' rest
  let (month, rest) ← fixedDigits 2 1 12 rest
  let rest ← mark '-' rest
  let (day, rest) ← fixedDigits 2 1 31 rest
  if valueIn 10 day.toList ≤ daysIn (valueIn 10 year.toList) (valueIn 10 month.toList) then
    some (year ++ "-" ++ month ++ "-" ++ day, rest)
  else none

/-- The fraction of a second in its normal form: at most nine digits, no zeros at the end. -/
def secondFraction (ds : List Char) : String :=
  let kept := ((ds.take 9).reverse.dropWhile (· == '0')).reverse
  if kept.isEmpty then "" else String.ofList ('.' :: kept)

def timeOfDay (cs : List Char) : Option (String × List Char) := do
  let (hour, rest) ← fixedDigits 2 0 23 cs
  let rest ← mark ':' rest
  let (minute, rest) ← fixedDigits 2 0 59 rest
  let rest ← mark ':' rest
  let (second, rest) ← fixedDigits 2 0 60 rest
  let whole := hour ++ ":" ++ minute ++ ":" ++ second
  match rest with
  | '.' :: c :: more =>
    if c.isDigit then
      let ds := (c :: more).takeWhile Char.isDigit
      some (whole ++ secondFraction ds, (c :: more).dropWhile Char.isDigit)
    else some (whole, rest)
  | _ => some (whole, rest)

def offset : Scanner String
  | [] => none
  | c :: rest =>
    if c = 'Z' ∨ c = 'z' then some ("Z", rest)
    else if c = '+' ∨ c = '-' then do
      let (hour, rest) ← fixedDigits 2 0 23 rest
      let rest ← mark ':' rest
      let (minute, rest) ← fixedDigits 2 0 59 rest
      let sign := if c = '-' ∧ (hour ≠ "00" ∨ minute ≠ "00") then "-" else "+"
      some (sign ++ hour ++ ":" ++ minute, rest)
    else none

/-- Reads a date, a time of day or both, the latter with or without an offset. -/
def time (cs : List Char) : Option (Node × List Char) :=
  match date cs with
  | none => (timeOfDay cs).map fun (t, rest) => (.time t, rest)
  | some (d, rest) =>
    let joined := match rest with
      | c :: more => if c = 'T' ∨ c = 't' ∨ c = ' ' then timeOfDay more else none
      | [] => none
    match joined with
    | none => some (.time d, rest)
    | some (t, rest) => match offset rest with
      | some (o, rest) => some (.time (d ++ "T" ++ t ++ o), rest)
      | none => some (.time (d ++ "T" ++ t), rest)

end AdapterGateway.Toml
