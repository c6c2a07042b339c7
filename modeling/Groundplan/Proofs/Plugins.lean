import Groundplan.Proofs.Composition

/-!
# Plugins in a catalog

What each plugin brings to a catalog. Under a type id the catalog has the last type that a plugin
registers there for its own provider; what a plugin has of other providers leaves no trace. The
catalog of two lists of plugins in a row is known from the catalogs of the two.
-/

namespace Groundplan

theorem findSome?_reverse_eq_some_iff {α β : Type} {f : α → Option β} {items : List α} {b : β} :
    items.reverse.findSome? f = some b ↔ ∃ front item back,
      items = front ++ item :: back ∧ f item = some b ∧ ∀ other ∈ back, f other = none := by
  rw [List.findSome?_eq_some_iff]
  constructor
  · rintro ⟨back, item, front, hitems, hitem, hback⟩
    refine ⟨front.reverse, item, back.reverse, ?_, hitem, by simpa using hback⟩
    rw [← items.reverse_reverse, hitems]
    simp
  · rintro ⟨front, item, back, rfl, hitem, hback⟩
    exact ⟨back.reverse, item, front.reverse, by simp, hitem, by simpa using hback⟩

namespace Plugin

/-- Whether a type of a plugin counts under the given id: it has to be of the plugin's provider. -/
def Registers (p : Plugin) (typeId : String) (t : ResourceType) : Prop :=
  t.typeId = typeId ∧ t.provider = p.providerId

/-- Whether a type is the last one of a plugin that counts under the given id. -/
def RegistersLast (p : Plugin) (typeId : String) (t : ResourceType) : Prop :=
  p.Registers typeId t ∧
    ∃ front back, p.types = front ++ t :: back ∧ ∀ other ∈ back, ¬p.Registers typeId other

/-- What a plugin has for an id. -/
def latest? (p : Plugin) (typeId : String) : Option ResourceType :=
  p.ownTypes.reverse.find? (·.typeId == typeId)

variable {p : Plugin} {typeId : String}

theorem latest?_eq_find? (p : Plugin) (typeId : String) : p.latest? typeId =
    p.types.reverse.find? fun t => t.typeId == typeId && t.provider == p.providerId := by
  rw [latest?, ownTypes, ← List.filter_reverse, List.find?_filter]
  refine congrArg (List.find? · _) (funext fun t => ?_)
  rw [Bool.eq_iff_iff]
  simp [and_comm]

theorem latest?_eq_some_iff {t : ResourceType} :
    p.latest? typeId = some t ↔ p.RegistersLast typeId t := by
  rw [latest?_eq_find?, List.find?_eq_findSome?_guard, findSome?_reverse_eq_some_iff]
  simp only [Option.guard_eq_some_iff, Option.guard_eq_none_iff, Bool.and_eq_true, beq_iff_eq]
  constructor
  · rintro ⟨front, _, back, htypes, ⟨rfl, ht⟩, hback⟩
    exact ⟨ht, front, back, htypes, fun other hother => by simpa [Registers] using hback other hother⟩
  · rintro ⟨ht, front, back, htypes, hback⟩
    exact ⟨front, t, back, htypes, ⟨rfl, ht⟩, fun other hother => by
      simpa [Registers] using hback other hother⟩

theorem latest?_eq_none_iff :
    p.latest? typeId = none ↔ ∀ t ∈ p.types, ¬p.Registers typeId t := by
  rw [latest?_eq_find?, List.find?_eq_none]
  simp [Registers]

end Plugin

theorem Registry.resolve_eq_ok_iff {r : Registry} {typeId : String} {t : ResourceType} :
    r.resolve typeId = .ok t ↔ r.get? typeId = some t := by
  rw [resolve]
  cases r.get? typeId <;> simp

namespace Catalog

theorem get?_types_eq_findSome? (plugins : List Plugin) (typeId : String) :
    (ofPlugins plugins).types.get? typeId = plugins.reverse.findSome? (·.latest? typeId) := by
  rw [get?_types_ofPlugins, List.reverse_flatMap, List.find?_flatMap]
  rfl

/-- Whether a type is the last one that counts under an id in a list of plugins. -/
def LastRegistered (plugins : List Plugin) (typeId : String) (t : ResourceType) : Prop :=
  ∃ before p after, plugins = before ++ p :: after ∧ p.RegistersLast typeId t ∧
    ∀ q ∈ after, ∀ other ∈ q.types, ¬q.Registers typeId other

theorem get?_types_eq_some_iff {plugins : List Plugin} {typeId : String} {t : ResourceType} :
    (ofPlugins plugins).types.get? typeId = some t ↔ LastRegistered plugins typeId t := by
  rw [get?_types_eq_findSome?, findSome?_reverse_eq_some_iff]
  simp only [Plugin.latest?_eq_some_iff, Plugin.latest?_eq_none_iff]
  rfl

theorem get?_types_eq_none_iff {plugins : List Plugin} {typeId : String} :
    (ofPlugins plugins).types.get? typeId = none ↔
      ∀ p ∈ plugins, ∀ t ∈ p.types, ¬p.Registers typeId t := by
  rw [get?_types_eq_findSome?, List.findSome?_eq_none_iff]
  simp only [List.mem_reverse, Plugin.latest?_eq_none_iff]

/-- Both catalogs together; of types with the same id that of the second one counts. -/
def join (c d : Catalog) : Catalog where
  types := c.types.overlay d.types
  rules := c.rules ++ d.rules
  providers := c.providers ++ d.providers

theorem get?_types_append (plugins more : List Plugin) (typeId : String) :
    (ofPlugins (plugins ++ more)).types.get? typeId =
      ((ofPlugins more).types.get? typeId).or ((ofPlugins plugins).types.get? typeId) := by
  simp only [get?_types_eq_findSome?, List.reverse_append, List.findSome?_append]

theorem ofPlugins_append (plugins more : List Plugin) :
    ofPlugins (plugins ++ more) = (ofPlugins plugins).join (ofPlugins more) := by
  have htypes : (ofPlugins (plugins ++ more)).types =
      (ofPlugins plugins).types.overlay (ofPlugins more).types := by
    refine Dictionary.ext_get? fun typeId => ?_
    rw [get?_types_append, Dictionary.get?_overlay]
  have hrules : (ofPlugins (plugins ++ more)).rules =
      (ofPlugins plugins).rules ++ (ofPlugins more).rules := by
    simp [rules_ofPlugins]
  have hproviders : (ofPlugins (plugins ++ more)).providers =
      (ofPlugins plugins).providers ++ (ofPlugins more).providers := by
    simp [providers_ofPlugins]
  cases hcatalog : ofPlugins (plugins ++ more)
  simp_all [join]

theorem ofPlugins_replace {p q : Plugin} (h : ∀ c : Catalog, c.add p = c.add q)
    (before after : List Plugin) :
    ofPlugins (before ++ p :: after) = ofPlugins (before ++ q :: after) := by
  simp only [ofPlugins, List.foldl_append, List.foldl_cons, h]

theorem add_of_stray_type {p : Plugin} {front back : List ResourceType} {stray : ResourceType}
    (htypes : p.types = front ++ stray :: back) (hstray : stray.provider ≠ p.providerId)
    (c : Catalog) : c.add p = c.add { p with types := front ++ back } := by
  have hown : p.ownTypes = Plugin.ownTypes { p with types := front ++ back } := by
    simp [Plugin.ownTypes, htypes, hstray]
  rw [add, hown]
  rfl

theorem add_of_stray_provider {p : Plugin} {stray : Provider} (hprovider : p.provider = some stray)
    (hstray : stray.id ≠ p.providerId) (c : Catalog) :
    c.add p = c.add { p with provider := none } := by
  have hown : p.ownProvider? = none := by simp [Plugin.ownProvider?, hprovider, hstray]
  rw [add, hown]
  rfl

/-- A type id resolves just if some plugin registers it for its own provider, and then to the last such
registration; a registration or a provider definition of another provider might as well not be there.
Rules and accepted definitions stand one after the other, and the catalog of two lists of plugins is
the join of their catalogs, in which the types of the second take precedence. -/
theorem ofPlugins_composes (plugins more : List Plugin) :
    (∀ typeId, ((∃ t, (ofPlugins plugins).types.resolve typeId = .ok t) ↔
        ∃ p ∈ plugins, ∃ t ∈ p.types, p.Registers typeId t) ∧
      ∀ t, (ofPlugins plugins).types.resolve typeId = .ok t ↔ LastRegistered plugins typeId t) ∧
    (∀ before p after front stray back, p.types = front ++ stray :: back →
      stray.provider ≠ p.providerId → ofPlugins (before ++ p :: after) =
        ofPlugins (before ++ { p with types := front ++ back } :: after)) ∧
    (∀ before p after stray, p.provider = some stray → stray.id ≠ p.providerId →
      ofPlugins (before ++ p :: after) =
        ofPlugins (before ++ { p with provider := none } :: after)) ∧
    (ofPlugins plugins).rules = plugins.flatMap (·.rules) ∧
    (ofPlugins plugins).providers =
      plugins.filterMap (fun p => p.provider.filter (·.id == p.providerId)) ∧
    ofPlugins (plugins ++ more) = (ofPlugins plugins).join (ofPlugins more) ∧
    ∀ typeId, (ofPlugins (plugins ++ more)).types.get? typeId =
      ((ofPlugins more).types.get? typeId).or ((ofPlugins plugins).types.get? typeId) := by
  refine ⟨fun typeId => ⟨?_, fun t => ?_⟩, ?_, ?_, rules_ofPlugins plugins, ?_,
    ofPlugins_append plugins more, get?_types_append plugins more⟩
  · simp only [Registry.resolve_eq_ok_iff, ← Option.isSome_iff_exists]
    rw [← not_iff_not, Option.not_isSome_iff_eq_none, get?_types_eq_none_iff]
    simp only [not_exists, not_and]
  · rw [Registry.resolve_eq_ok_iff, get?_types_eq_some_iff]
  · intro before p after front stray back htypes hstray
    exact ofPlugins_replace (add_of_stray_type htypes hstray) before after
  · intro before p after stray hprovider hstray
    exact ofPlugins_replace (add_of_stray_provider hprovider hstray) before after
  · rw [providers_ofPlugins, List.filterMap_eq_flatMap_toList]
    rfl

/-- A stray type behind a type with the same id neither takes its place nor hides it. -/
theorem ofPlugins_composes_pumps :
    let pump : ResourceType :=
      { typeId := "plant/pump", provider := "plant", terraformType := some "plant_pump" }
    let stray : ResourceType := { pump with provider := "mill" }
    let plugin : Plugin := { id := "plant/core", providerId := "plant", types := [pump, stray] }
    ofPlugins [plugin] = ofPlugins [{ plugin with types := [pump] }] ∧
      (ofPlugins [plugin]).types.resolve "plant/pump" = .ok pump := by
  intro pump stray plugin
  obtain ⟨hresolve, hstray, _⟩ := ofPlugins_composes [plugin] []
  refine ⟨hstray [] plugin [] [pump] stray [] rfl (by decide), ((hresolve _).2 pump).mpr ?_⟩
  refine ⟨[], plugin, [], rfl, ⟨⟨rfl, rfl⟩, [], [stray], rfl, ?_⟩, by simp⟩
  intro other hother
  rw [List.mem_singleton.mp hother]
  exact fun h => absurd h.2 (by decide)

end Catalog

end Groundplan
