import Groundplan.Proofs.Azure.Alike
import Groundplan.Proofs.Growth

/-!
# Growing Azure diagrams

The generators of the Azure catalog look at no resource but their own, so a diagram that grows keeps
the addresses, names, blocks, variables and outputs that it had.
-/

namespace Groundplan.Azure

theorem local_catalog : catalog.Local := by
  intro typeId type htype r c e hc
  exact generate_eq_of_alike (.refl r) hc (get?_types_catalog.mp htype).1 (fun _ => rfl) fun _ => rfl

/-- New nodes and edges that write into new nodes alone leave all that was there before as it was: the
identities of the old nodes, and their blocks, variables and outputs at the front. -/
theorem compile_extends (d : Diagram) (nodes : List Resource) (edges : List Edge)
    (hcheck : d.check = .ok ()) (hgrown : (d.grow nodes edges).check = .ok ())
    (hedges : ∀ edge ∈ edges, ∀ w, (d.grow nodes edges).injection? catalog edge = some w →
      w.receiver ∈ nodes.map (·.id)) :
    ∃ c grown, d.compile catalog = .ok c ∧ (d.grow nodes edges).compile catalog = .ok grown ∧
      (∀ node ∈ d.nodes, ∃ i, d.identity? catalog node.id = some i ∧
        (d.grow nodes edges).identity? catalog node.id = some i) ∧
      c.blocks <+: grown.blocks ∧ c.variables <+: grown.variables ∧ c.outputs <+: grown.outputs :=
  ⟨_, _, Diagram.compile_eq_ok_iff.mpr ⟨hcheck, rfl⟩, Diagram.compile_eq_ok_iff.mpr ⟨hgrown, rfl⟩,
    fun _ hnode => Diagram.identity?_grow catalog nodes edges hnode,
    Diagram.blocks_prefix_grow hcheck hgrown hedges local_catalog,
    Diagram.variables_prefix_grow hcheck hgrown hedges local_catalog,
    Diagram.outputs_prefix_grow hcheck hgrown hedges local_catalog⟩

def groupNode (id : String) : Resource where
  id := id
  typeId := TypeId.resourceGroup
  name := "main"

def vaultNode (id : String) : Resource where
  id := id
  typeId := TypeId.keyVault
  name := "keys"
  modes := Dictionary.empty.insert "sku_name" .exposed

def groupEdge (group vault : String) : Edge := ⟨"contains", group, "resources", vault, "rg-in"⟩

/-- A vault in a resource group. -/
def groupDiagram : Diagram where
  nodes := [groupNode "group", vaultNode "vault"]
  edges := [groupEdge "group" "vault"]

/-- The diagram with another vault in another resource group, each under the name of the old one. -/
def twoGroupDiagram : Diagram :=
  groupDiagram.grow [groupNode "group2", vaultNode "vault2"] [groupEdge "group2" "vault2"]

theorem compile_extends_groups :
    groupDiagram.check = .ok () ∧ twoGroupDiagram.check = .ok () ∧
    ∃ c grown, groupDiagram.compile catalog = .ok c ∧ twoGroupDiagram.compile catalog = .ok grown ∧
      c.blocks <+: grown.blocks ∧ c.variables <+: grown.variables ∧ c.outputs <+: grown.outputs ∧
      (twoGroupDiagram.identity? catalog "group").bind (·.address?) =
        some "azurerm_resource_group.main" ∧
      (twoGroupDiagram.identity? catalog "group2").bind (·.address?) =
        some "azurerm_resource_group.main_2" := by
  have hcheck : groupDiagram.check = .ok () := by decide
  have hgrown : twoGroupDiagram.check = .ok () := by decide
  have hinjection : (twoGroupDiagram.injection? catalog (groupEdge "group2" "vault2")).map
      (·.receiver) = some "vault2" := by decide +kernel
  have hedges : ∀ edge ∈ [groupEdge "group2" "vault2"], ∀ w,
      twoGroupDiagram.injection? catalog edge = some w →
        w.receiver ∈ [groupNode "group2", vaultNode "vault2"].map (·.id) := by
    intro edge hedge w hw
    rw [List.mem_singleton.mp hedge] at hw
    rw [hw] at hinjection
    exact Option.some.inj hinjection ▸ List.mem_cons_of_mem _ List.mem_cons_self
  obtain ⟨c, grown, hc, hother, hidentities, hblocks, hvariables, houtputs⟩ :=
    compile_extends groupDiagram _ _ hcheck hgrown hedges
  refine ⟨hcheck, hgrown, c, grown, hc, hother, hblocks, hvariables, houtputs, ?_,
    by decide +kernel⟩
  obtain ⟨i, hold, hnew⟩ := hidentities (groupNode "group") List.mem_cons_self
  have hunchanged : twoGroupDiagram.identity? catalog "group" =
      groupDiagram.identity? catalog "group" := hnew.trans hold.symm
  rw [hunchanged]
  decide +kernel

end Groundplan.Azure
