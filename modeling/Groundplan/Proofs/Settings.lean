import Groundplan.Compile.Providers
import Groundplan.Proofs.BlockContents
import Groundplan.Proofs.Dictionaries

/-!
# Settings of providers

Where a project, the definitions of its providers and the resources that supply settings hold
constants, no provider is set up with anything else.
-/

namespace Groundplan

/-- Whether a dictionary of properties holds nothing but constants. -/
def Dictionary.IsConstant (settings : Dictionary Property) : Prop :=
  ∀ key value, settings.get? key = some value → value.isConstant = true

namespace Settling

def IsConstant (state : Settling) : Prop :=
  ∀ provider settings, state.settings.get? provider = some settings → settings.IsConstant

theorem isConstant_supply {state : Settling} (h : state.IsConstant) (provider : String)
    {r : Resource} {key : String}
    (hr : ∀ value, r.present? key = some value → value.isConstant = true) :
    (supply provider r state key).IsConstant := by
  unfold supply
  split
  · rename_i settings value hsettings hvalue
    split
    · exact h
    · intro other otherSettings hother
      by_cases heq : other = provider
      · rw [heq, Dictionary.get?_insert_self] at hother
        cases hother
        intro otherKey otherValue hget
        by_cases hkey : otherKey = key
        · rw [hkey, Dictionary.get?_insert_self] at hget
          cases hget
          exact hr value hvalue
        · rw [Dictionary.get?_insert_of_ne _ _ hkey] at hget
          exact h provider settings hsettings otherKey otherValue hget
      · rw [Dictionary.get?_insert_of_ne _ _ heq] at hother
        exact h other otherSettings hother
  · exact h

theorem isConstant_foldl_supply {state : Settling} (h : state.IsConstant) (provider : String)
    {r : Resource} {keys : List String}
    (hr : ∀ key ∈ keys, ∀ value, r.present? key = some value → value.isConstant = true) :
    (keys.foldl (supply provider r) state).IsConstant := by
  induction keys generalizing state with
  | nil => exact h
  | cons key keys ih =>
    exact ih (isConstant_supply h provider (hr key List.mem_cons_self))
      fun other hother => hr other (List.mem_cons_of_mem _ hother)

theorem isConstant_foldl_supplyAll {types : Registry} {state : Settling} (h : state.IsConstant)
    {resources : List Resource}
    (hresources : ∀ r ∈ resources, ∀ type, types.get? r.typeId = some type →
      ∀ key ∈ type.providerProperties, ∀ value, r.present? key = some value →
        value.isConstant = true) :
    (resources.foldl (supplyAll types) state).IsConstant := by
  induction resources generalizing state with
  | nil => exact h
  | cons r resources ih =>
    refine ih ?_ fun other hother => hresources other (List.mem_cons_of_mem _ hother)
    unfold supplyAll
    split
    · rename_i type htype
      exact isConstant_foldl_supply h _ (hresources r List.mem_cons_self type htype)
    · exact h

end Settling

namespace Provider

theorem mem_of_mem_distinct {seen : List String} {providers : List Provider} {p : Provider}
    (h : p ∈ (distinct seen providers).1) : p ∈ providers := by
  induction providers generalizing seen with
  | nil => exact h
  | cons head rest ih =>
    unfold distinct at h
    split at h
    · exact List.mem_cons_of_mem _ (ih h)
    · rcases List.mem_cons.mp h with rfl | h
      · exact List.mem_cons_self
      · exact List.mem_cons_of_mem _ (ih h)

theorem mem_of_mem_used {types : Registry} {providers active : List Provider}
    {resources : List Resource} {p : Provider} (h : p ∈ used types providers active resources) :
    p ∈ active ∨ p ∈ providers := by
  induction resources generalizing active with
  | nil => exact .inl h
  | cons r rest ih =>
    unfold used at h
    split at h
    · rename_i found hfound
      have hmem : found ∈ providers := by
        obtain ⟨type, _, htype⟩ := Option.bind_eq_some_iff.mp hfound
        exact List.mem_of_find?_eq_some htype
      rcases ih h with h | h
      · split at h
        · exact .inl h
        · rcases List.mem_append.mp h with h | h
          · exact .inl h
          · exact .inr (List.mem_singleton.mp h ▸ hmem)
      · exact .inr h
    · exact ih h

theorem isConstant_baseSettings {p : Provider} {project : Project}
    (hp : p.defaultConfig.IsConstant)
    (hproject : ∀ config ∈ project.providerConfigs.values, ∀ value ∈ config.values,
      value.isConstant = true) : (p.baseSettings project).IsConstant := by
  unfold baseSettings
  split
  · rename_i config hconfig
    intro key value hvalue
    rcases Dictionary.mem_of_get?_overlay hvalue with h | h
    · exact hproject config (Dictionary.mem_values_of_get? hconfig) value h
    · exact hp key value h
  · exact hp

end Provider

theorem ProviderBlocks.mem_blocks_build {catalog : Catalog} {project : Project}
    {resources : List Resource}
    (hdefinitions : ∀ p ∈ catalog.providers, p.defaultConfig.IsConstant)
    (hproject : ∀ config ∈ project.providerConfigs.values, ∀ value ∈ config.values,
      value.isConstant = true)
    (hresources : ∀ r ∈ resources, ∀ type, catalog.types.get? r.typeId = some type →
      ∀ key ∈ type.providerProperties, ∀ value, r.present? key = some value →
        value.isConstant = true)
    {b : Block} (hb : b ∈ (build catalog project resources).1.blocks) :
    ∃ p ∈ catalog.providers, ∃ settings : Dictionary Property, settings.IsConstant ∧
      b = p.block settings := by
  obtain ⟨p, hp, rfl⟩ := List.mem_map.mp hb
  have hactive : ∀ q ∈ Provider.used catalog.types (Provider.distinct [] catalog.providers).1 []
      resources, q ∈ catalog.providers := by
    intro q hq
    rcases Provider.mem_of_mem_used hq with hq | hq
    · exact absurd hq List.not_mem_nil
    · exact Provider.mem_of_mem_distinct hq
  refine ⟨p, hactive p hp, _, ?_, rfl⟩
  have hinitial : Settling.IsConstant { settings := Dictionary.ofList ((Provider.used catalog.types
      (Provider.distinct [] catalog.providers).1 [] resources).map fun p =>
        (p.id, p.baseSettings project)) } := by
    intro provider settings hsettings
    obtain ⟨entry, hentry, rfl⟩ := List.mem_map.mp (Dictionary.mem_of_get?_ofList hsettings)
    obtain ⟨q, hq, rfl⟩ := List.mem_map.mp hentry
    exact Provider.isConstant_baseSettings (hdefinitions q (hactive q hq)) hproject
  have hsettled := Settling.isConstant_foldl_supplyAll hinitial hresources
  cases h : (resources.foldl (Settling.supplyAll catalog.types) _).settings.get? p.id with
  | none =>
    intro key value hvalue
    cases hvalue
  | some settings => exact hsettled p.id settings h

end Groundplan
