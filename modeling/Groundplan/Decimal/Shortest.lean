import Groundplan.Decimal.Binary

/-!
# Shortest decimals

The decimal with the fewest significant digits that still rounds to a given magnitude, and of those
the nearest. A decimal of a given number of digits lies on a grid; if any point of the grid rounds
to the magnitude, so does one of the two points around it, and only these are tried.
-/

namespace Groundplan.Decimal

/-- A decimal as its significant digits and the power of ten of the first of them. -/
structure Digits where
  digits : List Char
  power : Int
deriving DecidableEq, Repr

/-- The number of decimal digits; zero has none. -/
def decimalLength (n : Nat) : Nat := if n = 0 then 0 else (Nat.toDigits 10 n).length

/-- The power of ten of the leading digit of a positive ratio. -/
def leadingPower (num den : Nat) : Int :=
  if den ≤ num then (decimalLength (num / den) : Int) - 1
  else -((decimalLength ((den - 1) / num) : Nat) : Int)

/-- The decimals that round to a magnitude, on one grid: all quantities are counted in a common
unit, of which a step of the grid has `step`. -/
structure Neighbourhood where
  value : Nat
  low : Nat
  high : Nat
  step : Nat
  closed : Bool

namespace Neighbourhood

/-- The numbers that round to `x`, in units of the grid `10 ^ power`. The gap below a power of two
is half the gap above it, and the ends of the interval belong to it when the significand is even. -/
def of (x : Magnitude) (power : Int) : Neighbourhood :=
  let exponent := x.exponent - 2
  let scale (n : Nat) := Magnitude.scaleNum n exponent * Nat.pow 10 (-power).toNat
  let below := if x.significand = Nat.pow 2 52 ∧ Magnitude.leastExponent < x.exponent then 1 else 2
  { value := scale (4 * x.significand)
    low := scale (4 * x.significand - below)
    high := scale (4 * x.significand + 2)
    step := Magnitude.scaleDen 1 exponent * Nat.pow 10 power.toNat
    closed := x.significand % 2 = 0 }

/-- Whether the grid point rounds to the magnitude. -/
def contains (n : Neighbourhood) (point : Nat) : Bool :=
  let position := point * n.step
  if n.closed then n.low ≤ position && position ≤ n.high
  else n.low < position && position < n.high

/-- The nearer of the two grid points around the value, if one of them rounds to it. -/
def nearest? (n : Neighbourhood) : Option Nat :=
  let below := n.value / n.step
  let above := below + 1
  match n.contains below, n.contains above with
  | true, true =>
    let down := n.value - below * n.step
    let up := above * n.step - n.value
    if down < up ∨ (down = up ∧ below % 2 = 0) then some below else some above
  | true, false => some below
  | false, true => some above
  | false, false => none

end Neighbourhood

/-- Digits without the zeros at the end, which say nothing. -/
def dropTrailingZeros (digits : List Char) : List Char :=
  (digits.reverse.dropWhile (· == '0')).reverse

/-- The shortest decimal for a positive magnitude. Seventeen digits always suffice. -/
def Magnitude.shortest (x : Magnitude) : Digits :=
  let lead := leadingPower (Magnitude.scaleNum x.significand x.exponent)
    (Magnitude.scaleDen 1 x.exponent)
  let attempt (count : Nat) : Option Digits :=
    let power := lead - count
    (Neighbourhood.of x power).nearest?.map fun point =>
      let digits := Nat.toDigits 10 point
      ⟨dropTrailingZeros digits, power + digits.length - 1⟩
  ((List.range 17).findSome? attempt).getD ⟨['0'], 0⟩

end Groundplan.Decimal
