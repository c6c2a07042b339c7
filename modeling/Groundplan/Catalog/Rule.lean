/-!
# Connection rules

Which handles of which types of resources may be connected, and what a connection writes into one of
them. A rule applies to an edge if all four of its parts agree with it; of several the one that was
registered first governs.
-/

namespace Groundplan

/-- The end of an edge that receives a reference. -/
inductive Side where
  | source
  | target
deriving DecidableEq, Repr

def Side.name : Side → String
  | .source => "source"
  | .target => "target"

/-- What a connection writes: a reference to the resource at the other end. -/
structure ReferenceDirective where
  /-- The end whose property is written. -/
  side : Side
  key : String
  /-- The attribute referred to, if it is not the usual one. -/
  attributeName : Option String := none
deriving DecidableEq, Repr

def ReferenceDirective.attributeOrId (d : ReferenceDirective) : String :=
  d.attributeName.getD "id"

/-- The types and handles at the two ends of an edge. -/
structure Endpoints where
  sourceType : String
  sourceHandle : String
  targetType : String
  targetHandle : String
deriving DecidableEq, Repr, Inhabited

def Endpoints.text (e : Endpoints) : String :=
  e.sourceType ++ "[" ++ e.sourceHandle ++ "] -> " ++ e.targetType ++ "[" ++ e.targetHandle ++ "]"

/-- A rule that allows edges between the given ends. -/
structure Rule where
  endpoints : Endpoints
  reference : Option ReferenceDirective := none
  label : Option String := none
deriving DecidableEq, Repr, Inhabited

namespace Rule

/-- The rule writing a reference to the source into a property of the target. -/
def referencingSource (r : Rule) (key : String) (attributeName : Option String) : Rule :=
  { r with reference := some ⟨.target, key, attributeName⟩ }

/-- The rule writing a reference to the target into a property of the source. -/
def referencingTarget (r : Rule) (key : String) (attributeName : Option String) : Rule :=
  { r with reference := some ⟨.source, key, attributeName⟩ }

def labelled (r : Rule) (label : String) : Rule := { r with label := some label }

def allows (r : Rule) (e : Endpoints) : Bool := r.endpoints == e

end Rule

/-- How the rules decide about an edge. -/
inductive Resolution where
  | matched (rule : Rule)
  /-- Several rules apply; the given one governs. -/
  | ambiguous (rule : Rule) (candidates : Nat)
  | unresolved
deriving DecidableEq, Repr

namespace Resolution

def rule? : Resolution → Option Rule
  | .matched rule => some rule
  | .ambiguous rule _ => some rule
  | .unresolved => none

/-- The number of rules that apply. -/
def candidates : Resolution → Nat
  | .matched _ => 1
  | .ambiguous _ n => n
  | .unresolved => 0

end Resolution

namespace Rule

/-- Decides about an edge by the rules in the order of their registration. -/
def resolve (rules : List Rule) (e : Endpoints) : Resolution :=
  match rules.filter (·.allows e) with
  | [] => .unresolved
  | [rule] => .matched rule
  | rule :: others => .ambiguous rule (others.length + 1)

/-- The rules by which a handle can be the source of an edge. -/
def leaving (rules : List Rule) (type handle : String) : List Rule :=
  rules.filter fun r => r.endpoints.sourceType == type && r.endpoints.sourceHandle == handle

/-- The rules by which a handle can be the target of an edge. -/
def arriving (rules : List Rule) (type handle : String) : List Rule :=
  rules.filter fun r => r.endpoints.targetType == type && r.endpoints.targetHandle == handle

theorem rule?_resolve (rules : List Rule) (e : Endpoints) :
    (resolve rules e).rule? = (rules.filter (·.allows e)).head? := by
  unfold resolve
  split <;> rename_i h <;> rw [h] <;> rfl

end Rule

end Groundplan
