/-!
# Binary floating-point magnitudes

Finite doubles as exact numbers `significand * 2 ^ exponent`. Every operation computes the exact
ratio and rounds it once, to the nearest double and to the even one between two.
-/

namespace Groundplan.Decimal

/-- The nearest natural number to a quotient; a half goes to the even neighbour. -/
def roundDiv (num den : Nat) : Nat :=
  let quotient := num / den
  let twice := 2 * (num % den)
  if twice < den then quotient
  else if den < twice then quotient + 1
  else if quotient % 2 = 0 then quotient else quotient + 1

/-- The absolute value of a double. A normal magnitude has a significand of 53 bits; a smaller one
has the least exponent. -/
structure Magnitude where
  significand : Nat
  exponent : Int
deriving DecidableEq, Repr

namespace Magnitude

/-- The exponent of the smallest magnitudes. -/
def leastExponent : Int := -1074

/-- The exponent of the largest magnitudes. -/
def greatestExponent : Int := 971

def zero : Magnitude := ⟨0, leastExponent⟩

/-- The numerator of `n * 2 ^ e` written as a ratio of natural numbers. -/
def scaleNum (n : Nat) (e : Int) : Nat := n * Nat.pow 2 e.toNat

/-- The denominator that belongs to `scaleNum`. -/
def scaleDen (n : Nat) (e : Int) : Nat := n * Nat.pow 2 (-e).toNat

/-- The position of the leading bit of a positive ratio. -/
def leadingBit (num den : Nat) : Int :=
  let estimate : Int := (Nat.log2 num : Int) - (Nat.log2 den : Int)
  if scaleDen num estimate < scaleNum den estimate then estimate - 1 else estimate

/-- The nearest magnitude to a ratio, if it is within range. -/
def ofRatio? (num den : Nat) : Option Magnitude :=
  if num = 0 then some zero
  else
    let exponent := max (leadingBit num den - 52) leastExponent
    let rounded := roundDiv (scaleDen num exponent) (scaleNum den exponent)
    let result : Magnitude :=
      if rounded = Nat.pow 2 53 then ⟨Nat.pow 2 52, exponent + 1⟩ else ⟨rounded, exponent⟩
    if greatestExponent < result.exponent then none else some result

/-- The product, rounded. -/
def mul? (x y : Magnitude) : Option Magnitude :=
  let exponent := x.exponent + y.exponent
  ofRatio? (scaleNum (x.significand * y.significand) exponent) (scaleDen 1 exponent)

/-- The quotient by a positive magnitude, rounded. -/
def div? (x y : Magnitude) : Option Magnitude :=
  let exponent := x.exponent - y.exponent
  ofRatio? (scaleNum x.significand exponent) (scaleDen y.significand exponent)

def powerOfTen? (k : Nat) : Option Magnitude := ofRatio? (Nat.pow 10 k) 1

def greatestPower : Nat := 308

/-- The nearest magnitude to `digits * 10 ^ power`, rounded once. -/
def ofDecimal? (digits : Nat) (power : Int) : Option Magnitude :=
  let places : Int := (Nat.toDigits 10 digits).length + power
  if digits = 0 ∨ places < -400 then some zero
  else if 400 < places then none
  else ofRatio? (digits * Nat.pow 10 power.toNat) (Nat.pow 10 (-power).toNat)

/-- `digits * 10 ^ power` in floating point: the digits are rounded first, and the result of each
multiplication or division by a power of ten is rounded again. -/
def scaleDecimal? (digits : Nat) (power : Int) : Option Magnitude := do
  let x ← ofRatio? digits 1
  if digits = 0 then return zero
  if 0 ≤ power then
    if (greatestPower : Int) < power then none
    else x.mul? (← powerOfTen? power.toNat)
  else
    let places := power.natAbs
    if places ≤ greatestPower then x.div? (← powerOfTen? places)
    else
      let y ← x.div? (← powerOfTen? greatestPower)
      y.div? (← powerOfTen? (min (places - greatestPower) greatestPower))

end Magnitude

/-- A finite double: a sign and a magnitude. Zero has both signs. -/
structure Binary64 where
  negative : Bool
  magnitude : Magnitude
deriving DecidableEq, Repr

end Groundplan.Decimal
