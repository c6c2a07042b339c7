import Groundplan.Decimal.Number

/-!
# JSON values

Values of the data format in which diagrams are stored and reports are printed. An object keeps its
members in the order in which they were written.
-/

namespace Groundplan

inductive Json where
  | null
  | bool (b : Bool)
  | number (n : Number)
  | string (s : String)
  | array (items : List Json)
  | object (members : List (String × Json))

namespace Json

instance : Inhabited Json := ⟨.null⟩

/-- The value of a member, the last one if the name is repeated. -/
def get? : Json → String → Option Json
  | .object members, name => (members.reverse.find? (·.1 == name)).map (·.2)
  | _, _ => none

def ofOption : Option Json → Json
  | none => .null
  | some value => value

def ofStrings (items : List String) : Json := .array (items.map .string)

def ofNat (n : Nat) : Json := .number (.integer n)

/-- Members that are left out when they have no value. -/
def optional (name : String) : Option Json → List (String × Json)
  | none => []
  | some value => [(name, value)]

end Json

end Groundplan
