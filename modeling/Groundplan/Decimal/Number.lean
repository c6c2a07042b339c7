import Groundplan.Decimal.Shortest

/-!
# Numbers and their text

A number is an integer or a double. An integer is written with all its digits. A double is written
with the fewest digits that read back as the same double, always so that it is seen to be one.
-/

namespace Groundplan

open Decimal

/-- A number as written in a diagram. -/
inductive Number where
  | integer (value : Int)
  | float (value : Binary64)
deriving DecidableEq, Repr

namespace Decimal

/-- Where positional notation starts and ends: powers of ten of the leading digit from `least` on
and below `bound` are written without an exponent. -/
structure Layout where
  least : Int
  bound : Int

def zeros (n : Nat) : List Char := List.replicate n '0'

/-- Digits with a point behind the place of the units and at least one digit after it. -/
def Digits.positional (d : Digits) : List Char :=
  if d.power < 0 then '0' :: '.' :: (zeros ((-d.power).toNat - 1) ++ d.digits)
  else
    let places := d.power.toNat + 1
    let whole := d.digits.take places ++ zeros (places - d.digits.length)
    match d.digits.drop places with
    | [] => whole ++ ['.', '0']
    | fraction => whole ++ '.' :: fraction

/-- One digit before the point, the others after it, and an exponent with its sign. -/
def Digits.scientific (d : Digits) : List Char :=
  let head := d.digits.take 1
  let body := match d.digits.drop 1 with
    | [] => head
    | fraction => head ++ '.' :: fraction
  let sign := if d.power < 0 then '-' else '+'
  body ++ 'e' :: sign :: Nat.toDigits 10 d.power.natAbs

/-- The text of a decimal in the given layout. -/
def Layout.write (layout : Layout) (d : Digits) : List Char :=
  if layout.least ≤ d.power ∧ d.power < layout.bound then d.positional else d.scientific

end Decimal

namespace Number

/-- Doubles below 0.00001 and from 10 ^ 16 on are written with an exponent. -/
def layout : Layout := ⟨-5, 16⟩

/-- The text of a double; zero keeps its sign. -/
def writeFloat (x : Binary64) : String :=
  let body :=
    if x.magnitude.significand = 0 then ['0', '.', '0'] else layout.write x.magnitude.shortest
  String.ofList (if x.negative then '-' :: body else body)

def text : Number → String
  | .integer n => toString n
  | .float x => writeFloat x

instance : OfNat Number n := ⟨.integer n⟩

end Number

end Groundplan
