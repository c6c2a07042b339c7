import Groundplan.Diagram.Property

/-!
# Property schemas

What is known about the properties of a type of resource. The compiler fills in defaults and reports
required properties without a value; the rest is for editors.
-/

namespace Groundplan

inductive FieldKind where
  | string
  | number
  | boolean
  | select
  | cidr
  | tags
  | array
  | reference
deriving DecidableEq, Repr

def FieldKind.name : FieldKind → String
  | .string => "string"
  | .number => "number"
  | .boolean => "boolean"
  | .select => "select"
  | .cidr => "cidr"
  | .tags => "tags"
  | .array => "array"
  | .reference => "reference"

/-- The limits that an editor checks. -/
structure Validation where
  minLength : Option Nat := none
  maxLength : Option Nat := none
  min : Option Decimal.Binary64 := none
  max : Option Decimal.Binary64 := none
  pattern : Option String := none
  /-- The name of a check that the editor knows. -/
  custom : Option String := none
deriving DecidableEq, Repr, Inhabited

structure PropertySchema where
  key : String
  label : String
  kind : FieldKind
  required : Bool := false
  default : Option Property := none
  validation : Option Validation := none
deriving DecidableEq

namespace PropertySchema

instance : Inhabited PropertySchema := ⟨{ key := "", label := "", kind := .string }⟩

/-- A property without a value that the user must give one. -/
def mandatory (s : PropertySchema) : PropertySchema := { s with required := true }

def withDefault (s : PropertySchema) (value : Property) : PropertySchema :=
  { s with default := some value }

def withValidation (s : PropertySchema) (validation : Validation) : PropertySchema :=
  { s with validation := some validation }

end PropertySchema

end Groundplan
