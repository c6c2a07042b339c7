import Groundplan.Catalog.Basic
import Groundplan.Proofs.Dictionaries

/-!
# Composition of catalogs

What a catalog holds, said of the list of its plugins: under a type id the last type registered for
it, and all rules and provider definitions one after the other.
-/

namespace Groundplan

namespace Registry

/-- Of types registered one after the other under one id the last one counts. -/
theorem get?_foldl_register (r : Registry) (types : List ResourceType) (typeId : String) :
    (types.foldl register r).get? typeId =
      (types.reverse.find? (·.typeId == typeId)).or (r.get? typeId) := by
  have hentries := Dictionary.get?_foldl_insert (types.map fun type => (type.typeId, type)) r typeId
  rw [List.foldl_map, ← List.map_reverse, List.find?_map, Option.map_map] at hentries
  refine Eq.trans hentries ?_
  simp [Function.comp_def]

end Registry

namespace Catalog

theorem types_foldl_add (c : Catalog) (plugins : List Plugin) :
    (plugins.foldl add c).types = (plugins.flatMap (·.ownTypes)).foldl Registry.register c.types := by
  induction plugins generalizing c with
  | nil => rfl
  | cons p plugins ih => rw [List.foldl_cons, ih, List.flatMap_cons, List.foldl_append]; rfl

theorem get?_types_ofPlugins (plugins : List Plugin) (typeId : String) :
    (ofPlugins plugins).types.get? typeId =
      (plugins.flatMap (·.ownTypes)).reverse.find? (·.typeId == typeId) := by
  rw [ofPlugins, types_foldl_add, Registry.get?_foldl_register]
  exact Option.or_none

theorem providers_foldl_add (c : Catalog) (plugins : List Plugin) :
    (plugins.foldl add c).providers =
      c.providers ++ plugins.flatMap fun p => p.ownProvider?.toList := by
  induction plugins generalizing c with
  | nil => simp
  | cons p plugins ih => simp [ih, add]

theorem providers_ofPlugins (plugins : List Plugin) :
    (ofPlugins plugins).providers = plugins.flatMap fun p => p.ownProvider?.toList := by
  simp [ofPlugins, providers_foldl_add]

end Catalog

theorem Rule.resolve_of_nodup {rules : List Rule} (hn : (rules.map (·.endpoints)).Nodup)
    {rule : Rule} (h : rule ∈ rules) : resolve rules rule.endpoints = .matched rule := by
  have hfilter : rules.filter (·.allows rule.endpoints) = [rule] := by
    induction rules with
    | nil => exact absurd h List.not_mem_nil
    | cons head rest ih =>
      obtain ⟨hhead, hrest⟩ := List.nodup_cons.mp hn
      have hothers : ∀ other ∈ rest, head.endpoints ≠ other.endpoints := fun other hother heq =>
        hhead (List.mem_map.mpr ⟨other, hother, heq.symm⟩)
      rcases List.mem_cons.mp h with rfl | h
      · rw [List.filter_cons_of_pos (by simp [allows]), List.filter_eq_nil_iff.mpr]
        intro other hother
        simpa [allows] using Ne.symm (hothers other hother)
      · rw [List.filter_cons_of_neg (by simpa [allows] using hothers rule h)]
        exact ih hrest h
  rw [resolve, hfilter]

end Groundplan
