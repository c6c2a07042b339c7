import Groundplan.Proofs.Azure.Growth
import Groundplan.Proofs.Unknown

/-!
# Azure diagrams with nodes of unknown type

Nodes whose type the Azure catalog does not hold disturb nothing else, however many there are and
wherever they stand.
-/

namespace Groundplan.Azure

theorem isSome_get?_of_mem {typeId : String} (h : typeId ∈ resourceTypes.map (·.typeId)) :
    (catalog.types.get? typeId).isSome := by
  obtain ⟨type, htype, heq⟩ := List.mem_map.mp h
  exact Option.isSome_of_eq_some (get?_types_catalog.mpr ⟨htype, heq⟩)

theorem rulesKnown_catalog : catalog.RulesKnown := by
  have hends : ∀ rule ∈ connectionRules,
      rule.endpoints.sourceType ∈ resourceTypes.map (·.typeId) ∧
        rule.endpoints.targetType ∈ resourceTypes.map (·.typeId) := by decide
  intro rule hrule
  obtain ⟨hsource, htarget⟩ := hends rule (rules_catalog ▸ hrule)
  exact ⟨isSome_get?_of_mem hsource, isSome_get?_of_mem htarget⟩

/-- Without the nodes of unknown type and the edges that end there a diagram has the same
configuration, and the same findings in the same order but for those that are due to them. -/
theorem compile_ignores_unknown (d : Diagram) (hcheck : d.check = .ok ()) :
    ∃ c known, d.compile catalog = .ok c ∧
      (d.withoutUnknown catalog.types).compile catalog = .ok known ∧ c.WrittenAlike known ∧
      Interleaved known.findings (d.unknownFindings catalog.types) c.findings :=
  ⟨_, _, Diagram.compile_eq_ok_iff.mpr ⟨hcheck, rfl⟩,
    Diagram.compile_eq_ok_iff.mpr ⟨Diagram.check_withoutUnknown hcheck, rfl⟩,
    Diagram.compileConsistent_withoutUnknown hcheck rulesKnown_catalog local_catalog⟩

/-- A safe that bears the name of a vault, and is drawn as if it stood in the resource group. -/
def safeDiagram : Diagram where
  nodes :=
    [groupNode "group", { id := "safe", typeId := "azurerm/security/safe", name := "keys" },
     vaultNode "vault"]
  edges := [groupEdge "group" "safe", groupEdge "group" "vault"]

theorem compile_ignores_unknown_safe :
    safeDiagram.check = .ok () ∧ ∃ c known, safeDiagram.compile catalog = .ok c ∧
      groupDiagram.compile catalog = .ok known ∧ c.WrittenAlike known ∧
      Interleaved known.findings (safeDiagram.unknownFindings catalog.types) c.findings ∧
      (safeDiagram.unknownFindings catalog.types).map (·.text) =
        ["[warning] No connection rule allows azurerm/core/resource_group[resources] -> "
            ++ "azurerm/security/safe[rg-in] (edge contains)",
         "[error] Unknown resource type: azurerm/security/safe (node safe)"] := by
  have hcheck : safeDiagram.check = .ok () := by decide
  have hknown : safeDiagram.withoutUnknown catalog.types = groupDiagram := by decide +kernel
  obtain ⟨c, known, hc, hother, halike, hfindings⟩ := compile_ignores_unknown safeDiagram hcheck
  rw [hknown] at hother
  exact ⟨hcheck, c, known, hc, hother, halike, hfindings, by decide +kernel⟩

end Groundplan.Azure
