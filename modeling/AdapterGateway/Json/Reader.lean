import AdapterGateway.Json.Tree
/-!
# Reading JSON text

`Document.ofOctets` turns octets into a tree. The open brackets are kept as a list of frames, so
that the nesting of a text costs no nesting of calls.
-/
namespace AdapterGateway.Json
open AdapterGateway.Text

/-- Space, tab, line feed and carriage return. -/
def isSpace (b : UInt8) : Bool := b == 0x20 || b == 0x09 || b == 0x0A || b == 0x0D

def isDigit (b : UInt8) : Bool := 0x30 ≤ b && b ≤ 0x39

def hexDigit? (b : UInt8) : Option Nat :=
  if isDigit b then some (b.toNat - 0x30)
  else if 0x41 ≤ b ∧ b ≤ 0x46 then some (b.toNat - 0x41 + 10)
  else if 0x61 ≤ b ∧ b ≤ 0x66 then some (b.toNat - 0x61 + 10)
  else none

/-! ## Strings -/

/-- Where the reader of a string stands. -/
inductive Spot where
  | plain
  /-- Behind a backslash. -/
  | escape
  /-- Inside the four digits of a code unit: how many are still to come, and their value so far. -/
  | unit (missing : Nat) (value : Nat)
deriving DecidableEq, Repr

/-- The content of a string so far. -/
structure Content where
  /-- The octets in reverse, or nothing once they cannot be text. -/
  octets : Option Octets
  /-- The first half of a surrogate pair whose second half must follow at once. -/
  half : Option Nat
deriving Repr

/-- Puts octets behind the content. A half pair before them never becomes a character. -/
def Content.push (c : Content) (more : Octets) : Content :=
  match c.half with
  | some _ => ⟨none, none⟩
  | none => ⟨c.octets.map (more.reverseAux ·), none⟩

/-- Puts an escaped code unit behind the content. -/
def Content.pushUnit (c : Content) (n : Nat) : Content :=
  match c.half with
  | some high =>
    if 0xDC00 ≤ n ∧ n ≤ 0xDFFF then
      let code := 0x10000 + (high - 0xD800) * 0x400 + (n - 0xDC00)
      ⟨c.octets.map ((String.utf8EncodeChar (Char.ofNat code)).reverseAux ·), none⟩
    else ⟨none, none⟩
  | none =>
    if 0xD800 ≤ n ∧ n ≤ 0xDBFF then ⟨c.octets, some n⟩
    else if 0xDC00 ≤ n ∧ n ≤ 0xDFFF then ⟨none, none⟩
    else ⟨c.octets.map ((String.utf8EncodeChar (Char.ofNat n)).reverseAux ·), none⟩

/-- The text that the content of a finished string stands for. -/
def Content.text? (c : Content) : Spelling :=
  match c.half with
  | some _ => none
  | none => c.octets.bind fun octets => decode? octets.reverse

/-- What a letter behind a backslash stands for. -/
def escaped? (b : UInt8) : Option UInt8 :=
  if b == 0x22 || b == 0x5C || b == 0x2F then some b
  else if b == 0x62 then some 0x08
  else if b == 0x66 then some 0x0C
  else if b == 0x6E then some 0x0A
  else if b == 0x72 then some 0x0D
  else if b == 0x74 then some 0x09
  else none

/-- Reads up to the closing quote: the text, if the content is one, and what follows. Nothing comes
back where the string does not end, holds a control character or escapes something unknown. -/
def readString (c : Content) : Spot → Octets → Option (Spelling × Octets)
  | _, [] => none
  | .plain, b :: rest =>
    if b == 0x22 then some (c.text?, rest)
    else if b == 0x5C then readString c .escape rest
    else if b < 0x20 then none
    else readString (c.push [b]) .plain rest
  | .escape, b :: rest =>
    if b == 0x75 then readString c (.unit 4 0) rest
    else match escaped? b with
      | some plain => readString (c.push [plain]) .plain rest
      | none => none
  | .unit missing value, b :: rest =>
    match hexDigit? b with
    | none => none
    | some d =>
      if missing ≤ 1 then readString (c.pushUnit (value * 16 + d)) .plain rest
      else readString c (.unit (missing - 1) (value * 16 + d)) rest

/-! ## Numbers -/

/-- The digits at the head of the octets, and the rest. -/
def splitDigits (octets : Octets) : List Nat × Octets :=
  ((octets.takeWhile isDigit).map (·.toNat - 0x30), octets.dropWhile isDigit)

/-- Reads the exponent that may follow: nothing if its mark stands without digits. -/
def readExponent : Octets → Option (Option (Bool × List Nat) × Octets)
  | [] => some (none, [])
  | b :: rest =>
    if b == 0x65 || b == 0x45 then
      let (down, rest) := match rest with
        | [] => (false, [])
        | s :: more => if s == 0x2D then (true, more) else if s == 0x2B then (false, more)
          else (false, rest)
      match splitDigits rest with
      | ([], _) => none
      | (ds, rest) => some (some (down, ds), rest)
    else some (none, b :: rest)

/-- Reads the digits behind a point that may follow: nothing if there are none. -/
def readFraction : Octets → Option (List Nat × Octets)
  | [] => some ([], [])
  | b :: rest =>
    if b == 0x2E then
      match splitDigits rest with
      | ([], _) => none
      | (ds, rest) => some (ds, rest)
    else some ([], b :: rest)

/-- Reads a number behind its sign. A leading zero stands alone. -/
def readNumber (negative : Bool) (octets : Octets) : Option (Numeral × Octets) :=
  match splitDigits octets with
  | ([], _) => none
  | (0 :: _ :: _, _) => none
  | (whole, rest) =>
    match readFraction rest with
    | none => none
    | some (fraction, rest) =>
      match readExponent rest with
      | none => none
      | some (exponent, rest) =>
        some (⟨negative, whole, fraction, !fraction.isEmpty || exponent.isSome, exponent⟩, rest)

/-! ## Values -/

def readLetters : List UInt8 → Octets → Option Octets
  | [], octets => some octets
  | _ :: _, [] => none
  | l :: ls, b :: rest => if l == b then readLetters ls rest else none

def readScalar : Octets → Option (Tree × Octets)
  | [] => none
  | b :: rest =>
    if b == 0x22 then
      (readString ⟨some [], none⟩ .plain rest).map fun (s, rest) => (.string s, rest)
    else if b == 0x2D then
      (readNumber true rest).map fun (n, rest) => (.number n.value, rest)
    else if isDigit b then
      (readNumber false (b :: rest)).map fun (n, rest) => (.number n.value, rest)
    else if b == 0x6E then
      (readLetters [0x75, 0x6C, 0x6C] rest).map fun rest => (.null, rest)
    else if b == 0x74 then
      (readLetters [0x72, 0x75, 0x65] rest).map fun rest => (.bool true, rest)
    else if b == 0x66 then
      (readLetters [0x61, 0x6C, 0x73, 0x65] rest).map fun rest => (.bool false, rest)
    else none

/-- An open bracket and what has been read inside it, the latest first. -/
inductive Frame where
  | list (items : List Tree)
  /-- The name waits for its value. -/
  | object (members : List (Spelling × Tree)) (name : Option Spelling)
deriving Repr

/-- What must come next inside the innermost bracket. -/
inductive Expected where
  /-- A value, or the end of a list that has just begun. -/
  | value (orEnd : Bool)
  /-- A name, or the end of an object that has just begun. -/
  | name (orEnd : Bool)
  | colon
  /-- A comma or the end. -/
  | comma
deriving DecidableEq, Repr

/-- Whether a bracket with so many around it is too deep to be looked into. -/
def isDeep (outer : List Frame) : Bool := !(outer.drop (maxDepth - 1)).isEmpty

/-- The tree of a bracket inside the others that ends in the given way. -/
def Frame.close (outer : List Frame) (ending : Ending) : Frame → Tree
  | .list items => if isDeep outer then .deep true ending else .list items.reverse ending
  | .object members name =>
    if isDeep outer then .deep false ending
    else match name with
      | some name => .object ((name, .broken) :: members).reverse ending
      | none => .object members.reverse ending

def Frame.add (value : Tree) : Frame → Frame
  | .list items => .list (value :: items)
  | .object members (some name) => .object ((name, value) :: members) none
  | .object members none => .object members none

/-- The document of a text that goes no further, `value` being the last that was begun. -/
def abandon : List Frame → Option Tree → Document
  | [], value => ⟨value.getD .broken, false⟩
  | frame :: outer, value =>
    let frame := match value with
      | some value => frame.add value
      | none => frame
    abandon outer (some (frame.close outer .broken))

/-- Reads on inside the open brackets. Every step takes at least one octet. -/
def readOn : Nat → List Frame → Expected → Octets → Document
  | 0, frames, _, _ => abandon frames none
  | fuel + 1, frames, expected, octets =>
    match octets.dropWhile isSpace with
    | [] => abandon frames (if expected matches .value _ then some .broken else none)
    | b :: rest =>
      let finish (value : Tree) (outer : List Frame) (rest : Octets) : Document :=
        match outer with
        | [] => ⟨value, rest.all isSpace⟩
        | frame :: outer => readOn fuel (frame.add value :: outer) .comma rest
      match expected, frames with
      | .value orEnd, _ =>
        if b == 0x5B then readOn fuel (.list [] :: frames) (.value true) rest
        else if b == 0x7B then readOn fuel (.object [] none :: frames) (.name true) rest
        else if b == 0x5D && orEnd then
          match frames with
          | frame :: outer => finish (frame.close outer .exact) outer rest
          | [] => abandon frames none
        else match readScalar (b :: rest) with
          | some (value, rest) => finish value frames rest
          | none => abandon frames (some .broken)
      | .name orEnd, .object members none :: outer =>
        if b == 0x7D && orEnd then
          finish (Frame.close outer .exact (.object members none)) outer rest
        else if b == 0x22 then
          match readString ⟨some [], none⟩ .plain rest with
          | some (name, rest) => readOn fuel (.object members (some name) :: outer) .colon rest
          | none => abandon frames none
        else abandon frames none
      | .colon, _ =>
        if b == 0x3A then readOn fuel frames (.value false) rest else abandon frames none
      | .comma, frame :: outer =>
        match frame with
        | .list _ =>
          if b == 0x2C then readOn fuel frames (.value false) rest
          else if b == 0x5D then finish (frame.close outer .exact) outer rest
          else abandon frames none
        | .object _ _ =>
          if b == 0x2C then readOn fuel frames (.name false) rest
          else if b == 0x7D then finish (frame.close outer .exact) outer rest
          else abandon frames none
      | _, _ => abandon frames none

def Document.ofOctets (octets : Octets) : Document :=
  readOn (octets.length + 1) [] (.value false) octets

end AdapterGateway.Json
