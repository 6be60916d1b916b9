import AdapterGateway.Decimal.Binary64
/-!
# Numbers of JSON text

A number without point and exponent that fits 64 bits stays an integer, with or without a sign.
Every other number is a double, computed from a 64-bit significand and one scaling by a power of
ten: fast, and off by one unit in the last place for some long numbers. `Numeral.value` states it.
-/
namespace AdapterGateway.Json
open AdapterGateway.Decimal

/-- The parts of a number as written; digits are their values. -/
structure Numeral where
  negative : Bool
  whole : List Nat
  fraction : List Nat
  /-- Whether there is a point or an exponent. -/
  fractional : Bool
  /-- The sign and the digits behind the exponent mark. -/
  exponent : Option (Bool × List Nat)
deriving DecidableEq, Repr

/-- What a number denotes. -/
inductive Number where
  | integer (i : Int)
  | real (x : Binary64)
  /-- Greater than every finite double. -/
  | tooLarge
deriving DecidableEq, Repr

def maxSignificand : Nat := UInt64.size - 1

/-- The largest exponent that is read as one. -/
def maxExponent : Nat := 2147483647

def digitsValue (ds : List Nat) : Nat := ds.foldl (fun n d => n * 10 + d) 0

/-- Appends digits to a significand as long as it fits, and says how many were left over. -/
def absorb (significand : Nat) : List Nat → Nat × Nat
  | [] => (significand, 0)
  | d :: rest =>
    if significand * 10 + d ≤ maxSignificand then absorb (significand * 10 + d) rest
    else (significand, rest.length + 1)

/-- Scales a double that is not negative by a power of ten. Powers up to the largest finite one are
a single rounded step; further down the number is divided by the largest until it vanishes, which
the second division brings about at the latest. -/
def scale : Nat → Binary64 → Int → Option Binary64
  | 0, x, _ => some x
  | fuel + 1, x, exponent =>
    if exponent.natAbs ≤ 308 then
      if 0 ≤ exponent then
        let y := Binary64.mulAbs x (Binary64.pow10 exponent.natAbs)
        if y.isFinite then some y else none
      else some (Binary64.divAbs x (Binary64.pow10 exponent.natAbs))
    else if x.isZero then some x
    else if 0 ≤ exponent then none
    else scale fuel (Binary64.divAbs x (Binary64.pow10 308)) (exponent + 308)

/-- The double for a significand and a power of ten. -/
def realOf (negative : Bool) (significand : Nat) (exponent : Int) : Number :=
  match scale 4 (Binary64.ofInt significand) exponent with
  | some x => .real (if negative then x.neg else x)
  | none => .tooLarge

/-- The integer for a significand without further digits; negative zero and what does not fit are
doubles. -/
def integerOf (negative : Bool) (significand : Nat) : Number :=
  if !negative then .integer significand
  else if significand = 0 ∨ Nat.pow 2 63 < significand then
    .real (Binary64.ofInt significand).neg
  else .integer (-(significand : Int))

/-- What a numeral denotes. Digits of the whole part that the significand cannot take raise the
exponent, digits of the fraction that it cannot take are dropped. -/
def Numeral.value (n : Numeral) : Number :=
  let (significand, surplus) := absorb 0 n.whole
  if !n.fractional && surplus == 0 then integerOf n.negative significand
  else
    let (significand, dropped) := absorb significand n.fraction
    let exponent : Int := (surplus : Int) - (n.fraction.length - dropped : Nat)
    match n.exponent with
    | none => realOf n.negative significand exponent
    | some (down, ds) =>
      let e := digitsValue ds
      if maxExponent < e then
        if significand ≠ 0 ∧ !down then .tooLarge
        else .real (Binary64.zero n.negative)
      else realOf n.negative significand (if down then exponent - e else exponent + e)

end AdapterGateway.Json
