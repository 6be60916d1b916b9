/-!
# Double-precision numbers

A double is its 64 bits. Arithmetic is exact on natural numbers, with one rounding at the end: a
finite magnitude is a whole number of units of 2^-1074, the least positive double, and `nearest`
gives the bits of the double closest to a quotient, the even one of two.
-/
namespace AdapterGateway.Decimal

/-- An IEEE 754 double, bit by bit. -/
structure Binary64 where
  bits : UInt64
deriving DecidableEq, Repr, Inhabited

/-- The quotient `num / den`, rounded to the nearest whole number and to the even one of two. -/
def roundHalfEven (num den : Nat) : Nat :=
  let floor := num / den
  let twice := 2 * (num % den)
  if twice < den then floor
  else if den < twice then floor + 1
  else floor + floor % 2

namespace Binary64

def infinityBits : Nat := 2047 * Nat.pow 2 52

/-- The bits of the double nearest to `num / den`. Consecutive bit patterns are consecutive
doubles, so a carry out of the significand moves into the exponent by itself. -/
def nearest (num den : Nat) : Nat :=
  let units := num * Nat.pow 2 1074
  let shift := (units / den).log2 - 52
  min (shift * Nat.pow 2 52 + roundHalfEven units (den * Nat.pow 2 shift)) infinityBits

/-- The double with the given sign and magnitude bits. -/
def ofMagnitude (negative : Bool) (magnitude : Nat) : Binary64 :=
  ⟨UInt64.ofNat (if negative then Nat.pow 2 63 + magnitude else magnitude)⟩

def nan : Binary64 := ⟨0x7FF8000000000000⟩

def infinity (negative : Bool) : Binary64 := ofMagnitude negative infinityBits

def zero (negative : Bool) : Binary64 := ofMagnitude negative 0

def isNegative (x : Binary64) : Bool := Nat.pow 2 63 ≤ x.bits.toNat

/-- All bits but the sign. -/
def magnitude (x : Binary64) : Nat := x.bits.toNat % Nat.pow 2 63

def isFinite (x : Binary64) : Bool := x.magnitude < infinityBits

def isZero (x : Binary64) : Bool := x.magnitude == 0

/-- The distance from a finite magnitude to the next larger one, as a power of two of units. -/
def shift (x : Binary64) : Nat := x.magnitude / Nat.pow 2 52 - 1

/-- The significand of a finite double: its magnitude is `significand * 2 ^ shift` units. -/
def significand (x : Binary64) : Nat := x.magnitude - x.shift * Nat.pow 2 52

/-- The magnitude of a finite double in units of 2^-1074. -/
def units (x : Binary64) : Nat := x.significand * Nat.pow 2 x.shift

def ofInt (i : Int) : Binary64 := ofMagnitude (decide (i < 0)) (nearest i.natAbs 1)

def neg (x : Binary64) : Binary64 := ofMagnitude (!x.isNegative) x.magnitude

/-- The product of two finite doubles that are not negative. -/
def mulAbs (x y : Binary64) : Binary64 :=
  ofMagnitude false (nearest (x.units * y.units) (Nat.pow 2 2148))

/-- The quotient of two finite doubles that are not negative, the second not zero. -/
def divAbs (x y : Binary64) : Binary64 := ofMagnitude false (nearest x.units y.units)

/-- The double nearest to `digits * 10 ^ exponent`, with the given sign. Exponents far outside the
range of doubles are settled without building the power. -/
def ofDecimal (negative : Bool) (digits : Nat) (exponent : Int) : Binary64 :=
  let size := exponent + (Nat.toDigits 10 digits).length
  if digits = 0 ∨ size < -330 then zero negative
  else if 330 < size then infinity negative
  else
    let e := exponent.natAbs
    ofMagnitude negative
      (if 0 ≤ exponent then nearest (digits * Nat.pow 10 e) 1
        else nearest digits (Nat.pow 10 e))

def pow10 (e : Nat) : Binary64 := ofDecimal false 1 e

end Binary64
end AdapterGateway.Decimal
