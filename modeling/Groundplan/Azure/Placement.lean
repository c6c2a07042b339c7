import Groundplan.Catalog.Basic

/-!
# Placement of Azure resources

The attributes that most Azure resources have in common: the resource group, the location, which is
taken from the resource group if it is not given, and the tags of the project.
-/

namespace Groundplan.Azure

/-- The text before the last point, if there is one. -/
def beforeLastPoint : List Char → Option (List Char)
  | [] => none
  | c :: cs =>
    match beforeLastPoint cs with
    | some front => some (c :: front)
    | none => if c = '.' then some [] else none

/-- The expression for another attribute of the resource that an expression refers to. -/
def siblingAttribute? (expression other : String) : Option String :=
  (beforeLastPoint expression.toList).map fun address => String.ofList address ++ "." ++ other

/-- The attribute that stands beside the one a property refers to. -/
def besideReference? (r : Resource) (key other : String) : Option Value :=
  ((((r.property? key).bind (·.reference?)).bind (siblingAttribute? · other))).map .expression

/-- The resource group, which must be connected or given. -/
def resourceGroupName (r : Resource) : Except ResourceError Value :=
  (·.toValue) <$> r.require "resource_group_name"

/-- The location: the resource's own, or that of the resource group it refers to. -/
def location (r : Resource) : Except ResourceError Value :=
  match r.present? "location", besideReference? r "resource_group_name" "location" with
  | some value, _ => .ok value.toValue
  | none, some value => .ok value
  | none, none => .error (.missingProperty r.id "location")

/-- The start of a block that has a name, a resource group and a location. -/
def locatedBlock (terraformType : String) (r : Resource) (c : Context) :
    Except ResourceError Block := do
  let group ← resourceGroupName r
  let place ← location r
  return (Block.resource terraformType c.label
    |>.set "name" (.string c.resolvedName)
    |>.set "resource_group_name" group
    |>.set "location" place)

/-- The block with a property of the resource, if that is set. -/
def copyPresent (block : Block) (r : Resource) (key : String) : Block :=
  block.set? key ((r.present? key).map (·.toValue))

/-- The value of a property with a fallback, as a variable if the user has made it one. -/
def settingValue (r : Resource) (c : Context) (key fallback : String) : Generation Value :=
  c.propertyValue r key ((r.present? key).getD (.string fallback))

/-- The block with the tags of the project, if there are any. -/
def withTags (block : Block) (c : Context) : Block := block.set? "tags" c.commonTags?

theorem beforeLastPoint_append (cs : List Char) (name : List Char) (h : '.' ∉ name) :
    beforeLastPoint (cs ++ '.' :: name) = some cs := by
  have hname : beforeLastPoint name = none := by
    induction name with
    | nil => rfl
    | cons c name ih =>
      simp only [List.mem_cons, not_or] at h
      simp [beforeLastPoint, ih h.2, Ne.symm h.1]
  induction cs with
  | nil => simp [beforeLastPoint, hname]
  | cons c cs ih => simp [beforeLastPoint, ih]

end Groundplan.Azure
