import AdapterGateway.Decimal.Binary64
/-!
# Shortest decimal text

`Binary64.shortest` finds the fewest decimal digits that read back as a given double, and of those
the nearest; `Binary64.text` writes them, positionally while the leading digit stands at most five
places behind the point or fewer than seventeen before it.
-/
namespace AdapterGateway.Decimal

/-- A decimal number `digits * 10 ^ exponent`. -/
structure Scaled where
  digits : Nat
  exponent : Int
deriving DecidableEq, Repr

/-- The reals that round to one double, over a common denominator, and the double itself. -/
structure Interval where
  low : Nat
  centre : Nat
  high : Nat
  den : Nat
  closed : Bool
deriving Repr

/-- The reals that round to a finite positive double. The ends are halfway to the neighbours and
belong to it when its significand is even; below a power of two the neighbour is twice as near. -/
def Binary64.interval (x : Binary64) : Interval :=
  let gap := Nat.pow 2 x.shift
  let below := if x.significand = Nat.pow 2 52 ∧ 0 < x.shift then gap else 2 * gap
  ⟨4 * x.units - below, 4 * x.units, 4 * x.units + 2 * gap, 4 * Nat.pow 2 1074,
    x.significand % 2 == 0⟩

/-- A grid step `10 ^ exponent` as numerator and denominator. -/
def gridStep (exponent : Int) : Nat × Nat :=
  if 0 ≤ exponent then (Nat.pow 10 exponent.natAbs, 1)
  else (1, Nat.pow 10 exponent.natAbs)

/-- Whether `digits` steps of the grid lie in the interval. -/
def Interval.holds (i : Interval) (step : Nat × Nat) (digits : Nat) : Bool :=
  let here := digits * step.1 * i.den
  if i.closed then i.low * step.2 ≤ here && here ≤ i.high * step.2
  else i.low * step.2 < here && here < i.high * step.2

/-- The point of one grid that lies in the interval and is nearest to its centre, the even one of
two. Only the two neighbours of the centre can be it. -/
def Interval.onGrid? (i : Interval) (exponent : Int) : Option Nat :=
  let step := gridStep exponent
  let floor := i.centre * step.2 / (step.1 * i.den)
  let here := i.holds step floor
  let next := i.holds step (floor + 1)
  if here && next then
    let down := i.centre * step.2 - floor * step.1 * i.den
    let up := (floor + 1) * step.1 * i.den - i.centre * step.2
    if down < up ∨ (down = up ∧ floor % 2 = 0) then some floor else some (floor + 1)
  else if here then some floor
  else if next then some (floor + 1)
  else none

/-- The point on the coarsest of `fuel` grids, each ten times finer than the one before. -/
def Interval.coarsest (i : Interval) : Nat → Int → Scaled
  | 0, exponent => ⟨i.centre / i.den, exponent⟩
  | fuel + 1, exponent => match i.onGrid? exponent with
    | some digits => ⟨digits, exponent⟩
    | none => i.coarsest fuel (exponent - 1)

/-- The fewest digits that read back as a finite positive double. No power of ten above the first
grid tried lies below twice the double, and seventeen digits always suffice. -/
def Binary64.shortest (x : Binary64) : Scaled :=
  let i := x.interval
  let size : Int := (i.centre.log2 : Int) - i.den.log2 + 1
  i.coarsest 24 (Int.fdiv (size * 30103) 100000 + 1)

def zeros (n : Nat) : String := String.ofList (List.replicate n '0')

def Scaled.text (s : Scaled) : String :=
  let ds := Nat.toDigits 10 s.digits
  let leading : Int := s.exponent + ds.length - 1
  if -5 ≤ leading ∧ leading < 16 then
    if 0 ≤ s.exponent then String.ofList ds ++ zeros s.exponent.natAbs ++ ".0"
    else if 0 ≤ leading then
      let whole := leading.natAbs + 1
      String.ofList (ds.take whole) ++ "." ++ String.ofList (ds.drop whole)
    else "0." ++ zeros (leading.natAbs - 1) ++ String.ofList ds
  else
    let mantissa := match ds with
      | [d] => String.ofList [d]
      | d :: rest => String.ofList (d :: '.' :: rest)
      | [] => ""
    mantissa ++ (if leading < 0 then "e-" else "e+") ++ toString leading.natAbs

/-- The text of a finite double; the others have none. -/
def Binary64.text? (x : Binary64) : Option String :=
  if !x.isFinite then none
  else
    let sign := if x.isNegative then "-" else ""
    if x.isZero then some (sign ++ "0.0") else some (sign ++ x.shortest.text)

end AdapterGateway.Decimal
