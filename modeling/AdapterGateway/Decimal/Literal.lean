import AdapterGateway.Decimal.Binary64
import AdapterGateway.Text.Digits
/-!
# Decimal literals

Reads the decimal text of a double with one correct rounding.
-/
namespace AdapterGateway.Decimal
open Text

/-- Splits an optional sign off; the flag tells whether it was a minus. -/
def splitSign : List Char → Bool × List Char
  | '-' :: rest => (true, rest)
  | '+' :: rest => (false, rest)
  | cs => (false, cs)

/-- The exponent behind the digits: none, or a mark and a signed number. -/
def readExponent? : List Char → Option Int
  | [] => some 0
  | c :: rest =>
    if c = 'e' ∨ c = 'E' then
      let (negative, ds) := splitSign rest
      if ds.isEmpty || !ds.all Char.isDigit then none
      else some (if negative then -(natOfDigits ds : Int) else natOfDigits ds)
    else none

/-- Reads digits with at most one point among them and an exponent. -/
def readMagnitude? (negative : Bool) (cs : List Char) : Option Binary64 := do
  let whole := cs.takeWhile Char.isDigit
  let rest := cs.dropWhile Char.isDigit
  let (fraction, rest) := match rest with
    | '.' :: after => (after.takeWhile Char.isDigit, after.dropWhile Char.isDigit)
    | rest => ([], rest)
  if whole.isEmpty && fraction.isEmpty then none
  else
    let e ← readExponent? rest
    some (Binary64.ofDecimal negative (natOfDigits (whole ++ fraction)) (e - fraction.length))

/-- The double that `s` writes: a signed decimal number, an infinity or a not-a-number. -/
def Binary64.read? (s : String) : Option Binary64 :=
  let (negative, cs) := splitSign s.toList
  let name := String.ofList (cs.map Char.toLower)
  if name = "inf" ∨ name = "infinity" then some (Binary64.infinity negative)
  else if name = "nan" then
    some (if negative then Binary64.nan.neg else Binary64.nan)
  else readMagnitude? negative cs

end AdapterGateway.Decimal
