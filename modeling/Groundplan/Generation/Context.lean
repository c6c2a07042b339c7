import Groundplan.Diagram.Basic
import Groundplan.Generation.Basic

/-!
# The context of a generation

What a generator may look at besides its own resource: the identities and working copies of all
resources, the naming convention and the project. Nothing in it changes while blocks are generated.
-/

namespace Groundplan

/-- Under which names a resource stands in the configuration. -/
structure Identity where
  /-- The name after the naming convention. -/
  resolvedName : String
  label : String
  /-- The type of the resource's block; a resource without one emits no block of its own. -/
  terraformType : Option String
deriving DecidableEq, Repr, Inhabited

/-- The name by which expressions refer to the resource. -/
def Identity.address? (i : Identity) : Option String :=
  i.terraformType.map fun type => type ++ "." ++ i.label

/-- A resource on its way through the compilation. -/
structure Member where
  resource : Resource
  identity : Identity
deriving DecidableEq, Inhabited

namespace Member

def find? (members : List Member) (id : String) : Option Member :=
  members.find? (·.resource.id == id)

/-- The members with one more, which takes the place of one with the same id. -/
def put (member : Member) : List Member → List Member
  | [] => [member]
  | other :: rest =>
    if other.resource.id == member.resource.id then member :: rest else other :: put member rest

end Member

/-- What a generator may look at. -/
structure Context where
  identity : Identity
  members : List Member
  naming : Naming
  project : Project

/-- The particulars of the variable that a property may become. -/
structure VariableOptions where
  name : Option String := none
  type : Option String := none
  description : Option String := none
  sensitive : Bool := false

/-- The type of a variable whose default is the given value. -/
def Property.variableType : Property → String
  | .bool _ => "bool"
  | .number _ => "number"
  | .list _ => "list(string)"
  | .string _ | .reference _ => "string"

namespace Context

def label (c : Context) : String := c.identity.label

def resolvedName (c : Context) : String := c.identity.resolvedName

def resource? (c : Context) (id : String) : Option Resource :=
  (Member.find? c.members id).map (·.resource)

def address? (c : Context) (id : String) : Option String :=
  (Member.find? c.members id).bind (·.identity.address?)

def attributeOf (c : Context) (id name : String) : Except ResourceError String :=
  match c.address? id with
  | some address => .ok (address ++ "." ++ name)
  | none => .error (.unresolvedReference id)

def providerConfig? (c : Context) (provider : String) : Option (Dictionary Property) :=
  c.project.providerConfigs.get? provider

/-- The expression for the tags of the project, if it has any. -/
def commonTags? (c : Context) : Option Value :=
  if c.project.commonTags.isEmpty then none else some (.expression "local.common_tags")

def variableFor (c : Context) (key : String) (value : Property) (options : VariableOptions) :
    Variable where
  name := options.name.getD (c.label ++ "_" ++ key)
  type := options.type.getD value.variableType
  description := options.description.getD (key ++ " for " ++ c.resolvedName)
  default := some value
  sensitive := options.sensitive

/-- The value of a property in a block. If the user has made the property a variable, that variable
is declared and the value is an expression for it; a reference is always written as it is. -/
def propertyValue (c : Context) (resource : Resource) (key : String) (value : Property)
    (options : VariableOptions := {}) : Generation Value :=
  if resource.mode key = .literal ∨ value.reference?.isSome then return value.toValue
  else do
    let v := c.variableFor key value options
    Generation.declareVariable v
    return .expression ("var." ++ v.name)

end Context

end Groundplan
