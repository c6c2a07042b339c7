import Groundplan.Decimal.NumberText
import Groundplan.Yaml.Tag

/-!
# What YAML words stand for

The core schema: a bare word may stand for null, a truth value or a number, and stands for itself
otherwise. Integers may be hexadecimal, octal or binary; a decimal integer with a needless zero in
front is a string. A name in front can force one of the kinds.
-/

namespace Groundplan.Yaml

open Decimal

def isNullWord (s : String) : Bool :=
  s == "" || s == "~" || s == "null" || s == "Null" || s == "NULL"

def boolWord? (s : String) : Option Bool :=
  if s == "true" || s == "True" || s == "TRUE" then some true
  else if s == "false" || s == "False" || s == "FALSE" then some false
  else none

/-- The value of a digit in bases up to sixteen. -/
def digitIn? (base : Nat) (c : Char) : Option Nat :=
  let value :=
    if c.isDigit then c.toNat - '0'.toNat
    else if 'a' ≤ c ∧ c ≤ 'f' then c.toNat - 'a'.toNat + 10
    else if 'A' ≤ c ∧ c ≤ 'F' then c.toNat - 'A'.toNat + 10
    else base
  if value < base then some value else none

/-- The number with the given digits, at least one. -/
def natural? (base : Nat) : List Char → Option Nat
  | [] => none
  | digits => digits.foldlM (fun n c => (digitIn? base c).map (n * base + ·)) 0

/-- The magnitude of an integer without its sign. -/
def magnitude? : List Char → Option Nat
  | '0' :: 'x' :: digits => natural? 16 digits
  | '0' :: 'o' :: digits => natural? 8 digits
  | '0' :: 'b' :: digits => natural? 2 digits
  | ['0'] => some 0
  | '0' :: _ => none
  | digits => natural? 10 digits

/-- Whether a word without its sign is a decimal integer with needless zeros in front. -/
def isPadded : List Char → Bool
  | '0' :: c :: cs => (c :: cs).all (·.isDigit)
  | _ => false

def splitSign : List Char → Bool × List Char
  | '-' :: cs => (true, cs)
  | '+' :: cs => (false, cs)
  | cs => (false, cs)

/-- The integer that a word stands for. -/
def integer? (cs : List Char) : Option Int :=
  let (negative, body) := splitSign cs
  (magnitude? body).map fun n => if negative then -(n : Int) else n

/-- The exponent at the end of a word, if the rest of the word is one. -/
def exponent? : List Char → Option (Option Int)
  | [] => some none
  | mark :: rest =>
    if mark = 'e' ∨ mark = 'E' then
      let (negative, digits) := splitSign rest
      (natural? 10 digits).map fun n => some (if negative then -(n : Int) else n)
    else none

/-- The digits behind a point, if there is one, and what follows. -/
def splitFraction : List Char → Option (List Char) × List Char
  | '.' :: cs => (some (cs.takeWhile Char.isDigit), cs.dropWhile Char.isDigit)
  | cs => (none, cs)

/-- The parts of a numeral with digits before the point, behind it, or on both sides. -/
def numeral? (cs : List Char) : Option Numeral :=
  let (negative, body) := splitSign cs
  let whole := body.takeWhile (·.isDigit)
  let rest := body.drop whole.length
  let (fraction, rest) := splitFraction rest
  if whole.isEmpty && (fraction.getD []).isEmpty then none
  else (exponent? rest).map fun exponent => ⟨negative, whole, fraction, exponent⟩

/-- Whether a word stands for infinity or for no number at all. -/
def isNotFinite (s : String) : Bool :=
  [".inf", ".Inf", ".INF", "+.inf", "+.Inf", "+.INF", "-.inf", "-.Inf", "-.INF",
   ".nan", ".NaN", ".NAN"].contains s

/-- The scalar of a word that stands for a double. One out of range stands for no double. -/
def floatScalar? (s : String) : Option Scalar :=
  if isNotFinite s then some .unusable
  else ((numeral? s.toList).bind (·.nearest?)).map fun x => .number (.float x)

/-- The scalar of a word that stands for an integer: within 64 bits it is one, within 128 bits it
has no use, and beyond that it is no integer. -/
def integerScalar? (s : String) : Option Scalar :=
  (integer? s.toList).bind fun n =>
    if -(Nat.pow 2 63 : Int) ≤ n ∧ n < Nat.pow 2 64 then some (.number (.integer n))
    else if -(Nat.pow 2 127 : Int) ≤ n ∧ n < Nat.pow 2 128 then some .unusable
    else none

def resolvePlain (s : String) : Scalar :=
  if isNullWord s then .null
  else match boolWord? s with
    | some b => .bool b
    | none => match integerScalar? s with
      | some value => value
      | none =>
        if isPadded (splitSign s.toList).2 then .text s else (floatScalar? s).getD (.text s)

/-- The scalar of a word or string with a name in front, if any. -/
def resolve (tag : Option Tag) (plain : Bool) (s : String) : Scalar :=
  match tag with
  | some (.core "bool") => ((boolWord? s).map .bool).getD .unusable
  | some (.core "int") => (integerScalar? s).getD .unusable
  | some (.core "float") => (floatScalar? s).getD .unusable
  | some (.core "null") => if isNullWord s && s != "" then .null else .unusable
  | some (.core _) | some .foreign => .text s
  | some (.own _) | none => if plain then resolvePlain s else .text s

end Groundplan.Yaml
