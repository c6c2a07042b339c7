import Groundplan.Catalog.Basic

/-!
# Identities

Every resource gets its name from the naming convention and its label from that name. Labels are
given out in the order of the diagram: of several resources of one type with the same name the first
keeps the plain label, and the others get the least number from 2 on that is still free. Resources
without a block need no address and take none.
-/

namespace Groundplan

/-- The labels for a name in the order of preference, `count` of them beside the plain one. -/
def labelChoices (base : String) (count : Nat) : List String :=
  base :: (List.range count).map fun i => base ++ "_" ++ toString (i + 2)

/-- The first label for a name whose address is not taken. Among one label more than there are taken
addresses there always is one. -/
def freeLabel (taken : List String) (terraformType base : String) : String :=
  ((labelChoices base taken.length).find? fun label =>
    !taken.contains (terraformType ++ "." ++ label)).getD base

/-- The identity of a resource of the given type, when the given addresses are taken. -/
def Identity.assign (naming : Naming) (type? : Option ResourceType) (taken : List String)
    (name : String) : Identity :=
  let resolvedName := naming.resolve (type?.bind (·.constraints)) name
  let base := Text.label resolvedName
  let terraformType := type?.bind (·.terraformType)
  { resolvedName
    label := match terraformType with
      | some type => freeLabel taken type base
      | none => base
    terraformType }

/-- The members for the nodes of a diagram, when the given addresses are taken. -/
def assignIdentities (types : Registry) (naming : Naming) (taken : List String) :
    List Resource → List Member
  | [] => []
  | node :: nodes =>
    let identity := Identity.assign naming (types.get? node.typeId) taken node.name
    ⟨node, identity⟩ :: assignIdentities types naming (identity.address?.toList ++ taken) nodes

/-- The members of a compilation, in the order of the nodes. -/
def Diagram.members (d : Diagram) (types : Registry) : List Member :=
  assignIdentities types d.naming [] d.nodes

theorem map_resource_assignIdentities (types : Registry) (naming : Naming) (taken : List String)
    (nodes : List Resource) :
    (assignIdentities types naming taken nodes).map (·.resource) = nodes := by
  induction nodes generalizing taken with
  | nil => rfl
  | cons node nodes ih => simp [assignIdentities, ih]

end Groundplan
