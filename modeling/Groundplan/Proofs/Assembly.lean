import Groundplan.Proofs.Dictionaries
import Groundplan.Proofs.Providing
import Mathlib.Data.List.Induction

/-!
# Assembly of providers

Which providers a configuration sets up, in which order, with which settings, and what is reported on
the way. Settings come in three layers: what resources supply, of which the first one counts, what the
project sets, and the defaults of the definition.
-/

namespace Groundplan

section Repeated

variable {α β : Type} [DecidableEq β] (name : α → β)

/-- The items of a list that stand behind another one of the same name. -/
def repeated (items : List α) : List α :=
  (items.zipIdx.filter fun entry => name entry.1 ∈ (items.take entry.2).map name).map (·.1)

theorem repeated_concat (items : List α) (item : α) : repeated name (items ++ [item]) =
    repeated name items ++ if name item ∈ items.map name then [item] else [] := by
  have hfront : ∀ entry ∈ items.zipIdx, (items ++ [item]).take entry.2 = items.take entry.2 := by
    intro entry hentry
    exact List.take_append_of_le_length (Nat.le_of_lt (by simpa using (List.mem_zipIdx hentry).2.1))
  rw [repeated, List.zipIdx_append, List.filter_append, List.map_append, repeated]
  congr 1
  · refine congrArg _ (List.filter_congr fun entry hentry => ?_)
    rw [hfront entry hentry]
  · split <;> rename_i h <;> simp [h]

end Repeated

/-- A value for a setting of a provider, with the resource that supplies it. -/
structure Supply where
  resource : Resource
  provider : String
  key : String
  value : Property

namespace Supply

def place (s : Supply) : String × String := (s.provider, s.key)

def repeatedFinding (s : Supply) : Finding := Settling.repeatedFinding s.provider s.key s.resource

end Supply

namespace Registry

variable (types : Registry)

/-- The provider of a resource's type. -/
def providerOf? (r : Resource) : Option String := (types.get? r.typeId).map (·.provider)

/-- The settings that a resource supplies, in the order in which its type lists them; one that is
listed twice is supplied twice. -/
def supplies (r : Resource) : List Supply :=
  match types.get? r.typeId with
  | none => []
  | some type => type.providerProperties.filterMap fun key =>
      (r.present? key).map fun value => ⟨r, type.provider, key, value⟩

/-- What a resource has to offer for one setting of a provider. -/
def offered? (provider key : String) (r : Resource) : Option Property :=
  (types.get? r.typeId).bind fun type =>
    if type.provider = provider ∧ key ∈ type.providerProperties then r.present? key else none

end Registry

namespace Settling

/-- The state after one more value has been supplied. -/
def accept (state : Settling) (s : Supply) : Settling :=
  match state.settings.get? s.provider with
  | none => state
  | some settings =>
    if state.supplied.contains s.place then
      { state with findings := state.findings ++ [s.repeatedFinding] }
    else
      { state with
        settings := state.settings.insert s.provider (settings.insert s.key s.value)
        supplied := s.place :: state.supplied }

theorem supplyAll_eq_foldl_accept (types : Registry) (state : Settling) (r : Resource) :
    supplyAll types state r = (types.supplies r).foldl accept state := by
  unfold supplyAll Registry.supplies
  cases types.get? r.typeId with
  | none => rfl
  | some type =>
    dsimp only
    induction type.providerProperties generalizing state with
    | nil => rfl
    | cons key keys ih =>
      rw [List.foldl_cons, ih, List.filterMap_cons]
      cases hvalue : r.present? key with
      | none =>
        have hkept : supply type.provider r state key = state := by
          unfold supply
          rw [hvalue]
          split <;> simp_all
        rw [hkept]
        rfl
      | some value =>
        have haccepted : supply type.provider r state key =
            state.accept ⟨r, type.provider, key, value⟩ := by
          unfold supply accept
          rw [hvalue]
          cases state.settings.get? type.provider <;> rfl
        rw [haccepted]
        rfl

/-- The supplies that count, given the settings at the outset: those of a provider that is set up. -/
def accepted (initial : Dictionary (Dictionary Property)) (given : List Supply) : List Supply :=
  given.filter fun s => (initial.get? s.provider).isSome

/-- What the state holds when some values have been supplied, given the settings at the outset. -/
structure Holds (initial : Dictionary (Dictionary Property)) (given : List Supply)
    (state : Settling) : Prop where
  unknown : ∀ provider, initial.get? provider = none → state.settings.get? provider = none
  known : ∀ provider base, initial.get? provider = some base →
    ∃ settings, state.settings.get? provider = some settings ∧ ∀ key, settings.get? key =
      ((given.find? (·.place == (provider, key))).map (·.value)).or (base.get? key)
  supplied : ∀ place, place ∈ state.supplied ↔ place ∈ (accepted initial given).map (·.place)
  findings : state.findings =
    (repeated (·.place) (accepted initial given)).map (·.repeatedFinding)

namespace Holds

variable {initial : Dictionary (Dictionary Property)} {given : List Supply} {state : Settling}

theorem start (initial : Dictionary (Dictionary Property)) :
    Holds initial [] { settings := initial } where
  unknown _ h := h
  known _ base h := ⟨base, h, fun _ => Option.none_or.symm⟩
  supplied _ := by simp [accepted]
  findings := rfl

theorem find?_concat (given : List Supply) (s : Supply) (place : String × String) :
    ((given ++ [s]).find? (·.place == place)).map (·.value) =
      ((given.find? (·.place == place)).map (·.value)).or
        (if s.place = place then some s.value else none) := by
  rw [List.find?_append]
  cases given.find? (·.place == place) with
  | some first => rfl
  | none =>
    by_cases hplace : s.place = place
    · simp [hplace]
    · simp [hplace]

/-- Of the settings of a provider that is set up, just those have been supplied that some value was
given for. -/
theorem mem_supplied_iff (h : Holds initial given state) {provider : String}
    {base : Dictionary Property} (hbase : initial.get? provider = some base) (key : String) :
    (provider, key) ∈ state.supplied ↔
      (given.find? (·.place == (provider, key))).isSome := by
  rw [h.supplied, List.mem_map, List.find?_isSome]
  constructor
  · rintro ⟨s, hs, hplace⟩
    exact ⟨s, (List.mem_filter.mp hs).1, beq_iff_eq.mpr hplace⟩
  · rintro ⟨s, hs, hplace⟩
    have hown : s.place = (provider, key) := beq_iff_eq.mp hplace
    have hprovider : s.provider = provider := congrArg Prod.fst hown
    refine ⟨s, List.mem_filter.mpr ⟨hs, ?_⟩, hown⟩
    rw [hprovider]
    exact Option.isSome_of_eq_some hbase

theorem accept_of_unknown (h : Holds initial given state) {s : Supply}
    (hinitial : initial.get? s.provider = none) :
    Holds initial (given ++ [s]) (state.accept s) := by
  have hsame : state.accept s = state := by
    rw [Settling.accept, h.unknown s.provider hinitial]
  have haccepted : accepted initial (given ++ [s]) = accepted initial given := by
    simp [accepted, hinitial]
  rw [hsame]
  refine ⟨h.unknown, ?_, by rw [haccepted]; exact h.supplied, by rw [haccepted]; exact h.findings⟩
  intro provider base hbase
  obtain ⟨settings, hsettings, hvalue⟩ := h.known provider base hbase
  refine ⟨settings, hsettings, fun key => ?_⟩
  have hother : s.place ≠ (provider, key) := by
    intro heq
    have hprovider : s.provider = provider := congrArg Prod.fst heq
    rw [hprovider, hbase] at hinitial
    cases hinitial
  rw [hvalue, find?_concat, if_neg hother, Option.or_none]

theorem accept_of_supplied (h : Holds initial given state) {s : Supply} {base : Dictionary Property}
    (hinitial : initial.get? s.provider = some base) (hplace : s.place ∈ state.supplied) :
    Holds initial (given ++ [s]) (state.accept s) := by
  have haccepted : accepted initial (given ++ [s]) = accepted initial given ++ [s] := by
    simp [accepted, hinitial]
  obtain ⟨settings, hsettings, _⟩ := h.known s.provider base hinitial
  have hstate : state.accept s =
      { state with findings := state.findings ++ [s.repeatedFinding] } := by
    rw [Settling.accept, hsettings]
    exact if_pos (List.contains_iff_mem.mpr hplace)
  rw [hstate]
  refine ⟨h.unknown, ?_, ?_, ?_⟩
  · intro provider base hbase
    obtain ⟨settings, hsettings, hvalue⟩ := h.known provider base hbase
    refine ⟨settings, hsettings, fun key => ?_⟩
    rw [hvalue, find?_concat]
    by_cases hown : s.place = (provider, key)
    · obtain ⟨first, hfirst⟩ := Option.isSome_iff_exists.mp
        ((h.mem_supplied_iff hbase key).mp (hown ▸ hplace))
      rw [hfirst]
      rfl
    · rw [if_neg hown, Option.or_none]
  · intro place
    show place ∈ state.supplied ↔ _
    rw [haccepted, List.map_append, List.mem_append, ← h.supplied]
    refine ⟨.inl, ?_⟩
    rintro (hmem | hlast)
    · exact hmem
    · exact List.mem_singleton.mp hlast ▸ hplace
  · show state.findings ++ _ = _
    rw [haccepted, repeated_concat, if_pos ((h.supplied s.place).mp hplace), List.map_append,
      h.findings]
    rfl

theorem accept_of_fresh (h : Holds initial given state) {s : Supply} {base : Dictionary Property}
    (hinitial : initial.get? s.provider = some base) (hplace : s.place ∉ state.supplied) :
    Holds initial (given ++ [s]) (state.accept s) := by
  have haccepted : accepted initial (given ++ [s]) = accepted initial given ++ [s] := by
    simp [accepted, hinitial]
  obtain ⟨settings, hsettings, hvalue⟩ := h.known s.provider base hinitial
  have hstate : state.accept s =
      { state with
        settings := state.settings.insert s.provider (settings.insert s.key s.value)
        supplied := s.place :: state.supplied } := by
    rw [Settling.accept, hsettings]
    exact if_neg (mt List.contains_iff_mem.mp hplace)
  rw [hstate]
  refine ⟨?_, ?_, ?_, ?_⟩
  · intro provider hprovider
    have hne : provider ≠ s.provider := by
      rintro rfl
      rw [hinitial] at hprovider
      cases hprovider
    exact (Dictionary.get?_insert_of_ne _ _ hne).trans (h.unknown provider hprovider)
  · intro provider other hother
    by_cases hprovider : provider = s.provider
    · subst hprovider
      obtain rfl : base = other := Option.some.inj (hinitial.symm.trans hother)
      refine ⟨_, Dictionary.get?_insert_self _ _ _, fun key => ?_⟩
      rw [find?_concat]
      by_cases hkey : key = s.key
      · subst hkey
        have hnone : given.find? (·.place == (s.provider, s.key)) = none := by
          rw [← Option.not_isSome_iff_eq_none]
          exact mt (h.mem_supplied_iff hinitial s.key).mpr hplace
        have hown : s.place = (s.provider, s.key) := rfl
        rw [Dictionary.get?_insert_self, hnone, if_pos hown]
        rfl
      · have hne : s.place ≠ (s.provider, key) := fun heq => hkey (congrArg Prod.snd heq).symm
        rw [Dictionary.get?_insert_of_ne _ _ hkey, hvalue, if_neg hne, Option.or_none]
    · obtain ⟨others, hothers, hvalues⟩ := h.known provider other hother
      refine ⟨others, (Dictionary.get?_insert_of_ne _ _ hprovider).trans hothers, fun key => ?_⟩
      have hne : s.place ≠ (provider, key) := fun heq => hprovider (congrArg Prod.fst heq).symm
      rw [hvalues, find?_concat, if_neg hne, Option.or_none]
  · intro place
    show place ∈ s.place :: state.supplied ↔ _
    rw [haccepted, List.map_append, List.mem_append, ← h.supplied, List.mem_cons, or_comm]
    simp
  · show state.findings = _
    rw [haccepted, repeated_concat, if_neg (mt (h.supplied s.place).mpr hplace), List.append_nil]
    exact h.findings

theorem accept (h : Holds initial given state) (s : Supply) :
    Holds initial (given ++ [s]) (state.accept s) := by
  cases hinitial : initial.get? s.provider with
  | none => exact h.accept_of_unknown hinitial
  | some base =>
    by_cases hplace : s.place ∈ state.supplied
    · exact h.accept_of_supplied hinitial hplace
    · exact h.accept_of_fresh hinitial hplace

theorem foldl (h : Holds initial given state) (more : List Supply) :
    Holds initial (given ++ more) (more.foldl Settling.accept state) := by
  induction more generalizing given state with
  | nil => rwa [List.append_nil]
  | cons s more ih =>
    have hrest := ih (h.accept s)
    rwa [List.append_assoc, List.singleton_append] at hrest

end Holds

end Settling

namespace Provider

theorem distinct_concat (seen : List String) (providers : List Provider) (p : Provider) :
    (distinct seen (providers ++ [p])).2 = (distinct seen providers).2 ++
      if p.id ∈ seen ∨ p.id ∈ providers.map (·.id) then [p.repeatedFinding] else [] := by
  induction providers generalizing seen with
  | nil =>
    by_cases h : p.id ∈ seen
    · simp [distinct, h]
    · simp [distinct, h]
  | cons first rest ih =>
    rw [List.cons_append, distinct, distinct]
    by_cases h : first.id ∈ seen
    · have hseen : (p.id ∈ seen ∨ p.id ∈ (first :: rest).map (·.id)) ↔
          p.id ∈ seen ∨ p.id ∈ rest.map (·.id) := by
        rw [List.map_cons, List.mem_cons]
        refine ⟨?_, Or.imp_right .inr⟩
        rintro (hp | heq | hp)
        · exact .inl hp
        · exact .inl (heq ▸ h)
        · exact .inr hp
      rw [if_pos (List.contains_iff_mem.mpr h), if_pos (List.contains_iff_mem.mpr h)]
      show first.repeatedFinding :: (distinct seen (rest ++ [p])).2 =
        first.repeatedFinding :: (distinct seen rest).2 ++ _
      simp only [ih, hseen, List.cons_append]
    · have hseen : (p.id ∈ seen ∨ p.id ∈ (first :: rest).map (·.id)) ↔
          p.id ∈ first.id :: seen ∨ p.id ∈ rest.map (·.id) := by
        rw [List.map_cons, List.mem_cons, List.mem_cons, or_left_comm, or_assoc]
      rw [if_neg (mt List.contains_iff_mem.mp h), if_neg (mt List.contains_iff_mem.mp h)]
      show (distinct (first.id :: seen) (rest ++ [p])).2 = (distinct (first.id :: seen) rest).2 ++ _
      simp only [ih, hseen]

/-- Every definition behind another one of the same id is reported. -/
theorem findings_distinct (providers : List Provider) : (distinct [] providers).2 =
    (repeated (·.id) providers).map (·.repeatedFinding) := by
  induction providers using List.reverseRecOn with
  | nil => rfl
  | append_singleton providers p ih =>
    rw [distinct_concat, repeated_concat, ih, List.map_append]
    simp only [List.not_mem_nil, false_or]
    split <;> rfl

theorem get?_baseSettings (p : Provider) (project : Project) (key : String) :
    (p.baseSettings project).get? key =
      ((project.providerConfigs.get? p.id).bind (·.get? key)).or (p.defaultConfig.get? key) := by
  unfold baseSettings
  cases project.providerConfigs.get? p.id with
  | none => rfl
  | some config => exact Dictionary.get?_overlay _ _ _

end Provider

namespace Registry

variable (types : Registry)

theorem find?_supplies (r : Resource) (provider key : String) :
    ((types.supplies r).find? (·.place == (provider, key))).map (·.value) =
      types.offered? provider key r := by
  unfold supplies offered?
  cases types.get? r.typeId with
  | none => rfl
  | some type =>
    rw [Option.bind_some]
    dsimp only
    induction type.providerProperties with
    | nil => simp
    | cons first keys ih =>
      rw [List.filterMap_cons]
      cases hvalue : r.present? first with
      | none =>
        rw [Option.map_none]
        refine ih.trans ?_
        by_cases hkey : key = first
        · simp [hkey, hvalue]
        · simp [hkey]
      | some value =>
        rw [Option.map_some]
        dsimp only
        by_cases hplace : type.provider = provider ∧ first = key
        · obtain ⟨hprovider, rfl⟩ := hplace
          rw [List.find?_cons_of_pos (by simp [Supply.place, hprovider]),
            if_pos ⟨hprovider, List.mem_cons_self⟩, hvalue]
          rfl
        · rw [List.find?_cons_of_neg (by simpa [Supply.place] using hplace)]
          refine ih.trans (if_congr ?_ rfl rfl)
          rw [List.mem_cons]
          exact ⟨fun h => ⟨h.1, .inr h.2⟩,
            fun h => ⟨h.1, h.2.resolve_left fun hkey => hplace ⟨h.1, hkey.symm⟩⟩⟩

theorem providerOf?_of_mem_supplies {types : Registry} {r : Resource} {s : Supply}
    (h : s ∈ types.supplies r) : types.providerOf? r = some s.provider := by
  unfold supplies at h
  cases htype : types.get? r.typeId with
  | none =>
    rw [htype] at h
    cases h
  | some type =>
    rw [htype] at h
    obtain ⟨key, _, hs⟩ := List.mem_filterMap.mp h
    obtain ⟨value, _, rfl⟩ := Option.map_eq_some_iff.mp hs
    rw [providerOf?, htype, Option.map_some]

theorem find?_flatMap_supplies (resources : List Resource) (provider key : String) :
    ((resources.flatMap types.supplies).find? (·.place == (provider, key))).map (·.value) =
      resources.findSome? (types.offered? provider key) := by
  induction resources with
  | nil => rfl
  | cons r resources ih =>
    rw [List.flatMap_cons, List.find?_append, List.findSome?_cons, ← types.find?_supplies r, ← ih]
    cases (types.supplies r).find? (·.place == (provider, key)) <;> rfl

/-- The place of the first resource whose type belongs to a provider. -/
def firstUse (resources : List Resource) (provider : String) : Nat :=
  resources.findIdx fun r => types.providerOf? r == some provider

theorem firstUse_cons (r : Resource) (resources : List Resource) (provider : String) :
    types.firstUse (r :: resources) provider =
      if types.providerOf? r = some provider then 0 else types.firstUse resources provider + 1 := by
  rw [firstUse, List.findIdx_cons]
  by_cases h : types.providerOf? r = some provider
  · simp [h]
  · rw [beq_false_of_ne h, if_neg h]
    rfl

end Registry

namespace Catalog

variable (catalog : Catalog)

theorem needed?_eq_some {r : Resource} {p : Provider} (h : catalog.needed? r = some p) :
    catalog.types.providerOf? r = some p.id ∧ Provider.find? catalog.providers p.id = some p := by
  obtain ⟨type, htype, hfind⟩ := Option.bind_eq_some_iff.mp h
  have hid : p.id = type.provider := by simpa using List.find?_some hfind
  rw [hid]
  exact ⟨by rw [Registry.providerOf?, htype, Option.map_some], hfind⟩

/-- A resource needs the provider of its type, if that is defined. -/
theorem needed?_eq_find? {r : Resource} {id : String} (h : catalog.types.providerOf? r = some id) :
    catalog.needed? r = Provider.find? catalog.providers id := by
  obtain ⟨type, htype, rfl⟩ := Option.map_eq_some_iff.mp h
  rw [needed?, htype, Option.bind_some]

theorem mem_ids_active_iff {resources : List Resource} {id : String} :
    id ∈ (catalog.active resources).map (·.id) ↔ id ∈ catalog.providers.map (·.id) ∧
      ∃ r ∈ resources, catalog.types.providerOf? r = some id := by
  constructor
  · intro h
    obtain ⟨p, hp, rfl⟩ := List.mem_map.mp h
    obtain ⟨r, hr, hneeded⟩ := List.mem_filterMap.mp (mem_of_mem_firstNamed _ hp)
    obtain ⟨hprovider, hfind⟩ := catalog.needed?_eq_some hneeded
    exact ⟨List.mem_map_of_mem (List.mem_of_find?_eq_some hfind), r, hr, hprovider⟩
  · rintro ⟨hdefined, r, hr, hprovider⟩
    obtain ⟨q, hq, rfl⟩ := List.mem_map.mp hdefined
    obtain ⟨p, hfind⟩ : ∃ p, Provider.find? catalog.providers q.id = some p := by
      rw [← Option.isSome_iff_exists, Provider.find?, List.find?_isSome]
      exact ⟨q, hq, beq_self_eq_true _⟩
    have hneeded : p ∈ resources.filterMap catalog.needed? :=
      List.mem_filterMap.mpr ⟨r, hr, (catalog.needed?_eq_find? hprovider).trans hfind⟩
    have hid : p.id = q.id := by simpa using List.find?_some hfind
    obtain ⟨first, hfirst⟩ : ∃ first, (catalog.active resources).find? (·.id == q.id) =
        some first := by
      rw [← Option.isSome_iff_exists, active, find?_firstNamed, List.find?_isSome]
      exact ⟨p, hneeded, beq_iff_eq.mpr hid⟩
    exact List.mem_map.mpr ⟨first, List.mem_of_find?_eq_some hfirst,
      by simpa using List.find?_some hfirst⟩

theorem find?_of_mem_active {resources : List Resource} {p : Provider}
    (h : p ∈ catalog.active resources) : Provider.find? catalog.providers p.id = some p := by
  obtain ⟨r, _, hneeded⟩ := List.mem_filterMap.mp (mem_of_mem_firstNamed _ h)
  exact (catalog.needed?_eq_some hneeded).2

/-- The active providers stand in the order in which resources use them first. -/
theorem pairwise_firstUse (resources : List Resource) :
    (catalog.active resources).Pairwise fun p q =>
      catalog.types.firstUse resources p.id < catalog.types.firstUse resources q.id := by
  induction resources with
  | nil => exact .nil
  | cons r resources ih =>
    cases hneeded : catalog.needed? r with
    | none =>
      have hother : ∀ p ∈ catalog.active resources, catalog.types.providerOf? r ≠ some p.id := by
        intro p hp hprovider
        rw [catalog.needed?_eq_find? hprovider, catalog.find?_of_mem_active hp] at hneeded
        cases hneeded
      rw [active, List.filterMap_cons_none hneeded]
      refine ih.imp_of_mem fun hp hq hlt => ?_
      rw [Registry.firstUse_cons, if_neg (hother _ hp), Registry.firstUse_cons,
        if_neg (hother _ hq)]
      exact Nat.succ_lt_succ hlt
    | some first =>
      obtain ⟨hprovider, _⟩ := catalog.needed?_eq_some hneeded
      have hother : ∀ p ∈ (catalog.active resources).filter (·.id != first.id),
          catalog.types.providerOf? r ≠ some p.id := by
        intro p hp heq
        rw [hprovider] at heq
        simpa [Option.some.inj heq] using (List.mem_filter.mp hp).2
      rw [active, List.filterMap_cons_some hneeded, firstNamed]
      refine List.pairwise_cons.mpr ⟨fun q hq => ?_, ?_⟩
      · rw [Registry.firstUse_cons, if_pos hprovider, Registry.firstUse_cons,
          if_neg (hother q hq)]
        exact Nat.succ_pos _
      · refine (ih.filter _).imp_of_mem fun hp hq hlt => ?_
        rw [Registry.firstUse_cons, if_neg (hother _ hp), Registry.firstUse_cons,
          if_neg (hother _ hq)]
        exact Nat.succ_lt_succ hlt

/-- The values that resources supply for settings of providers that are defined. -/
def supplies (resources : List Resource) : List Supply :=
  (resources.flatMap catalog.types.supplies).filter fun s =>
    s.provider ∈ catalog.providers.map (·.id)

variable (project : Project) (resources : List Resource)

/-- The settings of the active providers before resources supply theirs. -/
def outset : Dictionary (Dictionary Property) :=
  Dictionary.ofList ((catalog.active resources).map fun p => (p.id, p.baseSettings project))

theorem get?_outset_eq_some_iff {id : String} {base : Dictionary Property} :
    (catalog.outset project resources).get? id = some base ↔
      ∃ p ∈ catalog.active resources, p.id = id ∧ p.baseSettings project = base := by
  have hkeys : (((catalog.active resources).map fun p => (p.id, p.baseSettings project)).map
      fun entry => entry.1).Nodup := by
    rw [List.map_map]
    exact nodup_map_firstNamed Provider.id _
  rw [outset, Dictionary.get?_ofList_eq_some_iff hkeys, List.mem_map]
  simp only [Prod.mk.injEq]

theorem isSome_get?_outset_iff {id : String} :
    ((catalog.outset project resources).get? id).isSome ↔
      id ∈ (catalog.active resources).map (·.id) := by
  rw [Option.isSome_iff_exists, List.mem_map]
  constructor
  · rintro ⟨base, hbase⟩
    obtain ⟨p, hp, hid, _⟩ := (catalog.get?_outset_eq_some_iff project resources).mp hbase
    exact ⟨p, hp, hid⟩
  · rintro ⟨p, hp, hid⟩
    exact ⟨_, (catalog.get?_outset_eq_some_iff project resources).mpr ⟨p, hp, hid, rfl⟩⟩

/-- Of the values that resources supply those count that are for a defined provider. -/
theorem accepted_supplies : Settling.accepted (catalog.outset project resources)
    (resources.flatMap catalog.types.supplies) = catalog.supplies resources := by
  refine List.filter_congr fun s hs => ?_
  obtain ⟨r, hr, hs⟩ := List.mem_flatMap.mp hs
  rw [Bool.eq_iff_iff, decide_eq_true_iff, catalog.isSome_get?_outset_iff, mem_ids_active_iff]
  exact ⟨And.left, fun hdefined => ⟨hdefined, r, hr, Registry.providerOf?_of_mem_supplies hs⟩⟩

theorem holds_settled : Settling.Holds (catalog.outset project resources)
    (resources.flatMap catalog.types.supplies) (catalog.settled project resources) := by
  have hsettled : catalog.settled project resources =
      (resources.flatMap catalog.types.supplies).foldl Settling.accept
        { settings := catalog.outset project resources } := by
    rw [List.foldl_flatMap, settled]
    exact List.foldl_ext _ _ _ fun state r _ => Settling.supplyAll_eq_foldl_accept _ state r
  rw [hsettled]
  exact (Settling.Holds.start (catalog.outset project resources)).foldl _

end Catalog

/-- The providers of a configuration are the defined ones that resources use, in the order of first
use, each by its first definition. A setting has the value that the first resource supplies, failing
that the one of the project, and failing that the default. Definitions and supplies that come too
late are reported, one by one, and nothing else is. -/
theorem build_assembles_providers (catalog : Catalog) (project : Project)
    (resources : List Resource) :
    ∃ (active : List Provider) (settings : Provider → Dictionary Property),
      (ProviderBlocks.build catalog project resources).1 =
        { required := active.map fun p => { name := p.id, source := p.source, version := p.version }
          blocks := active.map fun p => p.block (settings p) } ∧
      (∀ id, id ∈ active.map (·.id) ↔ id ∈ catalog.providers.map (·.id) ∧
        ∃ r ∈ resources, catalog.types.providerOf? r = some id) ∧
      (active.Pairwise fun p q =>
        catalog.types.firstUse resources p.id < catalog.types.firstUse resources q.id) ∧
      (∀ p ∈ active, catalog.providers.find? (·.id == p.id) = some p) ∧
      (∀ p ∈ active, ∀ key, (settings p).get? key =
        (resources.findSome? (catalog.types.offered? p.id key)).or
          (((project.providerConfigs.get? p.id).bind (·.get? key)).or
            (p.defaultConfig.get? key))) ∧
      (ProviderBlocks.build catalog project resources).2 =
        ((repeated (·.id) catalog.providers).map fun p =>
          { kind := .duplicateProvider, severity := .warning, node := none, edge := none
            message := "Provider '" ++ p.id
              ++ "' is registered more than once; the first registration is used" }) ++
        (repeated (·.place) (catalog.supplies resources)).map fun s =>
          { kind := .duplicateProvider, severity := .warning, node := some s.resource.id
            edge := none
            message := "Provider '" ++ s.provider ++ "' setting '" ++ s.key
              ++ "' is already supplied by another resource; ignoring this one" } := by
  have hholds := catalog.holds_settled project resources
  refine ⟨catalog.active resources,
    fun p => ((catalog.settled project resources).settings.get? p.id).getD .empty,
    ProviderBlocks.build_fst catalog project resources, fun id => catalog.mem_ids_active_iff,
    catalog.pairwise_firstUse resources, fun p hp => catalog.find?_of_mem_active hp, ?_, ?_⟩
  · intro p hp key
    obtain ⟨settings, hsettings, hvalue⟩ := hholds.known p.id (p.baseSettings project)
      ((catalog.get?_outset_eq_some_iff project resources).mpr ⟨p, hp, rfl, rfl⟩)
    dsimp only
    rw [hsettings, Option.getD_some, hvalue, Registry.find?_flatMap_supplies,
      Provider.get?_baseSettings]
  · rw [ProviderBlocks.build_snd, Provider.findings_distinct, hholds.findings,
      catalog.accepted_supplies]
    rfl

/-- A provider whose block has one setting. -/
def regionProvider (source : String) : Provider where
  id := "cloud"
  displayName := "Cloud"
  source := source
  version := "~> 1.0"
  block settings := (Block.ofType "provider" ["cloud"]).set? "region"
    ((settings.get? "region").map (·.toValue))

/-- Two definitions of a provider, and a type that supplies its setting. -/
def regionCatalog : Catalog where
  types := Registry.register .empty
    { typeId := "site", provider := "cloud", terraformType := none,
      providerProperties := ["region"] }
  providers := [regionProvider "acme/cloud", regionProvider "other/cloud"]

def siteAt (id region : String) : Resource :=
  { id, typeId := "site", name := id, properties := Dictionary.empty.insert "region" (.string region) }

theorem build_assembles_providers_twice :
    let built := ProviderBlocks.build regionCatalog {} [siteAt "a" "north", siteAt "b" "south"]
    (∃ settings : Dictionary Property, settings.get? "region" = some (.string "north") ∧
      built.1.required = [{ name := "cloud", source := "acme/cloud", version := "~> 1.0" }] ∧
      built.1.blocks = [(regionProvider "acme/cloud").block settings]) ∧
    built.2 =
      [{ kind := .duplicateProvider, severity := .warning, node := none, edge := none
         message := "Provider 'cloud' is registered more than once; the first registration is used" },
       { kind := .duplicateProvider, severity := .warning, node := some "b", edge := none
         message := "Provider 'cloud' setting 'region' is already supplied by another resource; "
           ++ "ignoring this one" }] := by
  obtain ⟨active, settings, hbuilt, hids, horder, hfirst, hvalue, hfindings⟩ :=
    build_assembles_providers regionCatalog {} [siteAt "a" "north", siteAt "b" "south"]
  have hown : ∀ p ∈ active, p = regionProvider "acme/cloud" := by
    intro p hp
    have hid : p.id = "cloud" := by
      simpa [regionCatalog, regionProvider] using ((hids p.id).mp (List.mem_map_of_mem hp)).1
    have hfind := hfirst p hp
    rw [hid] at hfind
    exact (Option.some.inj hfind).symm
  have hused : "cloud" ∈ active.map (·.id) := (hids "cloud").mpr (by decide)
  have hactive : active = [regionProvider "acme/cloud"] := by
    cases active with
    | nil => cases hused
    | cons p rest =>
      obtain rfl := hown p List.mem_cons_self
      cases rest with
      | nil => rfl
      | cons q rest =>
        obtain rfl := hown q (List.mem_cons_of_mem _ List.mem_cons_self)
        exact absurd ((List.pairwise_cons.mp horder).1 _ List.mem_cons_self) (Nat.lt_irrefl _)
  subst hactive
  refine ⟨⟨settings (regionProvider "acme/cloud"), ?_, ?_, ?_⟩, hfindings.trans (by decide)⟩
  · rw [hvalue _ List.mem_cons_self]
    rfl
  · rw [hbuilt]
    rfl
  · rw [hbuilt]
    rfl

end Groundplan
