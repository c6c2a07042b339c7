import Groundplan.Catalog.Schema
import Groundplan.Generation.Context
import Groundplan.Naming.Constraints

/-!
# Types of resources

Everything registered for a type of resource. A virtual type stands for something that has a name
and can be connected, but emits no block.
-/

namespace Groundplan

abbrev Generator := Resource → Context → Generation (List Block)

/-- A registered type of resource. -/
structure ResourceType where
  typeId : String
  provider : String
  /-- The type of the blocks emitted; a virtual type has none. -/
  terraformType : Option String
  schema : List PropertySchema := []
  providerProperties : List String := []
  constraints : Option NamingConstraints := none
  icon : Option String := none
  nodeComponent : Option String := none
  generate : Generator := fun _ _ => pure []

instance : Inhabited ResourceType := ⟨{ typeId := "", provider := "", terraformType := none }⟩

namespace ResourceType

def isVirtual (t : ResourceType) : Bool := t.terraformType.isNone

/-- The properties that must have a value. -/
def requiredKeys (t : ResourceType) : List String := (t.schema.filter (·.required)).map (·.key)

end ResourceType

/-- An optional value shown to a person. -/
def describeOption {α : Type} (describe : α → String) : Option α → String
  | none => "None"
  | some value => "Some(" ++ describe value ++ ")"

def describeBool (b : Bool) : String := if b then "true" else "false"

/-- Named parts of a value shown to a person. -/
def describeFields (name : String) (fields : List (String × String)) : String :=
  name ++ " \x7b " ++ ", ".intercalate (fields.map fun field => field.1 ++ ": " ++ field.2) ++ " \x7d"

def NamingConstraints.describe (c : NamingConstraints) : String :=
  describeFields "NamingConstraints"
    [("lowercase", describeBool c.lowercase), ("no_hyphens", describeBool c.noHyphens),
     ("max_length", describeOption toString c.maxLength)]

/-- The type shown to a person: what bears on compilation, and of the schema only the keys. -/
def ResourceType.describe (t : ResourceType) : String :=
  describeFields "TypeRegistration"
    [("type_id", Text.spell t.typeId), ("provider", Text.spell t.provider),
     ("terraform_type", describeOption Text.spell t.terraformType),
     ("schema", Text.spellAll (t.schema.map (·.key))),
     ("provider_properties", Text.spellAll t.providerProperties),
     ("naming_constraints", describeOption NamingConstraints.describe t.constraints)]

/-- The registered types by their ids. -/
abbrev Registry := Dictionary ResourceType

namespace Registry

/-- The registry with one more type, which takes the place of one with the same id. -/
def register (r : Registry) (t : ResourceType) : Registry := r.insert t.typeId t

/-- The type with the given id, which must be registered. -/
def resolve (r : Registry) (typeId : String) : Except ResourceError ResourceType :=
  match r.get? typeId with
  | some t => .ok t
  | none => .error (.unknownType typeId)

def describe (r : Registry) : String :=
  describeFields "TypeRegistry" [("types", Text.spellAll r.keys)]

end Registry

end Groundplan
