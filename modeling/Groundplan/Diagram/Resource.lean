import Groundplan.Diagram.Property
import Groundplan.Dictionary

/-!
# Resources and edges

The nodes of a diagram and the connections drawn between their handles, with the ways in which the
properties of a resource are asked for.
-/

namespace Groundplan

/-- Why no configuration can be generated for a resource. -/
inductive ResourceError where
  | unknownType (typeId : String)
  | missingProperty (node key : String)
  | invalidProperty (node key expected : String)
  | failed (node message : String)
  | unresolvedReference (node : String)
deriving DecidableEq, Repr

def ResourceError.message : ResourceError → String
  | .unknownType typeId => "Unknown resource type: " ++ typeId
  | .missingProperty node key =>
    "Resource '" ++ node ++ "' is missing required property '" ++ key ++ "'"
  | .invalidProperty node key expected =>
    "Resource '" ++ node ++ "' has invalid property '" ++ key ++ "': expected " ++ expected
  | .failed node message => "Generator failed for resource '" ++ node ++ "': " ++ message
  | .unresolvedReference node =>
    "Cannot resolve reference to resource '" ++ node ++ "': not found"

/-- Whether a value is written where it is used, or exposed as the default of a variable. -/
inductive Mode where
  | literal
  | exposed
deriving DecidableEq, Repr

/-- A node of a diagram. -/
structure Resource where
  /-- Unique within its diagram. -/
  id : String
  typeId : String
  /-- The name given by the user, before the naming convention is applied. -/
  name : String
  properties : Dictionary Property := .empty
  /-- The properties for which a mode has been chosen. -/
  modes : Dictionary Mode := .empty
deriving DecidableEq

namespace Resource

instance : Inhabited Resource := ⟨{ id := "", typeId := "", name := "" }⟩

def property? (r : Resource) (key : String) : Option Property := r.properties.get? key

/-- The value of a property that is set. -/
def present? (r : Resource) (key : String) : Option Property :=
  (r.property? key).filter (!·.isBlank)

/-- The mode of a property; values are written in place unless the user has chosen otherwise. -/
def mode (r : Resource) (key : String) : Mode := (r.modes.get? key).getD .literal

def setProperty (r : Resource) (key : String) (value : Property) : Resource :=
  { r with properties := r.properties.insert key value }

def setMode (r : Resource) (key : String) (mode : Mode) : Resource :=
  { r with modes := r.modes.insert key mode }

/-- The value of a property that must be set. -/
def require (r : Resource) (key : String) : Except ResourceError Property :=
  match r.present? key with
  | some value => .ok value
  | none => .error (.missingProperty r.id key)

/-- The text of a property that must be set to a string. -/
def requireString (r : Resource) (key : String) : Except ResourceError String := do
  match (← r.require key).string? with
  | some s => return s
  | none => throw (.invalidProperty r.id key "string")

/-- The text of a property, or the given one if the property holds no string. -/
def stringOr (r : Resource) (key default : String) : String :=
  ((r.property? key).bind (·.string?)).getD default

theorem require_eq_ok_iff {r : Resource} {key : String} {value : Property} :
    r.require key = .ok value ↔ r.present? key = some value := by
  unfold require
  cases r.present? key <;> simp

theorem property?_setProperty_self (r : Resource) (key : String) (value : Property) :
    (r.setProperty key value).property? key = some value := by
  simp [setProperty, property?]

theorem property?_setProperty_of_ne (r : Resource) {key other : String} (value : Property)
    (h : other ≠ key) : (r.setProperty key value).property? other = r.property? other :=
  Dictionary.get?_insert_of_ne _ _ h

end Resource

/-- A connection drawn from a handle of one resource to a handle of another. -/
structure Edge where
  id : String
  source : String
  sourceHandle : String
  target : String
  targetHandle : String
deriving DecidableEq, Repr, Inhabited

end Groundplan
