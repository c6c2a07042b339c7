import Groundplan.Decimal.Number

/-!
# Reading numbers

The value of a numeral that has already been taken apart. Integers that fit in 64 bits stay
integers; everything else becomes a double.
-/

namespace Groundplan.Decimal

/-- The parts of a numeral: its sign, the digits before and after the point, and the exponent. -/
structure Numeral where
  negative : Bool
  whole : List Char
  fraction : Option (List Char)
  exponent : Option Int

def digitValue (c : Char) : Nat := c.toNat - '0'.toNat

/-- The natural number with the given decimal digits. -/
def ofDigits (digits : List Char) : Nat :=
  digits.foldl (fun n c => n * 10 + digitValue c) 0

/-- The greatest integer of 64 bits. -/
def wordLimit : Nat := Nat.pow 2 64 - 1

/-- Appends digits to a significand as long as it fits in 64 bits, and returns the digits left. -/
def fillWord (n : Nat) : List Char → Nat × List Char
  | [] => (n, [])
  | c :: cs =>
    let next := n * 10 + digitValue c
    if next ≤ wordLimit then fillWord next cs else (n, c :: cs)

namespace Numeral

/-- The integer a numeral without point and exponent stands for, if it fits in 64 bits. The integer
zero has no negative form. -/
def integer? (n : Numeral) : Option Int :=
  let value := ofDigits n.whole
  if n.fraction.isSome ∨ n.exponent.isSome then none
  else if n.negative then
    if 0 < value ∧ value ≤ Nat.pow 2 63 then some (-(value : Int)) else none
  else if value ≤ wordLimit then some value
  else none

/-- The double of a numeral from as many of its leading digits as fit in 64 bits, scaled by a power
of ten; `none` if it is out of range. -/
def float? (n : Numeral) : Option Binary64 := do
  let (head, spill) := fillWord 0 n.whole
  let fraction := n.fraction.getD []
  let (significand, rest) := fillWord head fraction
  let power := (spill.length : Int) - (fraction.length - rest.length : Nat) + n.exponent.getD 0
  return ⟨n.negative, ← Magnitude.scaleDecimal? significand power⟩

def number? (n : Numeral) : Option Number :=
  match n.integer? with
  | some value => some (.integer value)
  | none => n.float?.map .float

/-- The double nearest to a numeral, rounded once. -/
def nearest? (n : Numeral) : Option Binary64 := do
  let fraction := n.fraction.getD []
  let power := n.exponent.getD 0 - (fraction.length : Int)
  return ⟨n.negative, ← Magnitude.ofDecimal? (ofDigits (n.whole ++ fraction)) power⟩

end Numeral

end Groundplan.Decimal
