import Groundplan.Proofs.Azure.Modes
import Groundplan.Proofs.Headings

/-!
# Exposed settings

Which variables the settings of resources become, and what their defaults are. The name of such a
variable is made of a label and a key, and labels are only distinct among resources of one type. So
two settings can come to share a variable, which then has the value of the first one.
-/

namespace Groundplan

namespace Diagram

variable (d : Diagram) (catalog : Catalog)

/-- The generation of a resource when one of its properties is asked for as it is. -/
def literalGeneration (m : Member) (key : String) : Generation (List Block) :=
  d.generation catalog { m with resource := m.resource.setMode key .literal }

/-- Whether a resource refers to a variable under a key only because of the mode of that key. -/
def Exposes (m : Member) (key name : String) : Prop :=
  m ∈ d.successes catalog ∧
    (key, .expression ("var." ++ name)) ∈
      (d.generation catalog m).results.flatMap (·.attributes) ∧
    (key, .expression ("var." ++ name)) ∉
      (d.literalGeneration catalog m key).results.flatMap (·.attributes)

/-- Whether a resource would have just one value under a key if that were asked for as it is. -/
def WritesInline (m : Member) (key : String) (inline : Value) : Prop :=
  (d.literalGeneration catalog m key).succeeds = true ∧
    ((d.literalGeneration catalog m key).results.flatMap (·.attributes)).filter (·.1 == key) =
      [(key, inline)]

variable {d catalog}

theorem WritesInline.unique {m : Member} {key : String} {a b : Value}
    (ha : d.WritesInline catalog m key a) (hb : d.WritesInline catalog m key b) : a = b := by
  have h := ha.2.symm.trans hb.2
  cases h
  rfl

end Diagram

theorem Property.toValue_ne_expression {p : Property} (h : p.reference? = none) (e : String) :
    p.toValue ≠ .expression e := by
  intro heq
  cases p with
  | reference other => cases h
  | _ => cases heq

namespace Azure

/-- Whether two resources are a plan and a vault, in whatever order, with one label. -/
def Twins (a b : Member) : Prop :=
  a.identity.label = b.identity.label ∧
    (a.resource.typeId = TypeId.appServicePlan ∧ b.resource.typeId = TypeId.keyVault ∨
      a.resource.typeId = TypeId.keyVault ∧ b.resource.typeId = TypeId.appServicePlan)

section Settings

theorem nodup_settings (typeId : String) : ((settings typeId).map (·.1)).Nodup := by
  unfold settings
  split
  · decide
  · split
    · decide
    · split <;> decide

theorem mem_settings_iff {typeId : String} {s : String × String} : s ∈ settings typeId ↔
    typeId = TypeId.appServicePlan ∧ (s = ("os_type", "Linux") ∨ s = ("sku_name", "B1")) ∨
    typeId = TypeId.storageAccount ∧
      (s = ("account_tier", "Standard") ∨ s = ("account_replication_type", "LRS")) ∨
    typeId = TypeId.keyVault ∧ s = ("sku_name", "standard") := by
  unfold settings
  split
  · rename_i h
    simp [h, TypeId.appServicePlan, TypeId.storageAccount, TypeId.keyVault]
  · split
    · rename_i h
      simp [h, TypeId.appServicePlan, TypeId.storageAccount, TypeId.keyVault]
    · split
      · rename_i h
        simp [h, TypeId.appServicePlan, TypeId.storageAccount, TypeId.keyVault]
      · rename_i hplan haccount hvault
        simp [hplan, haccount, hvault]

theorem shared_key {typeId otherType key fallback otherFallback : String}
    (h : (key, fallback) ∈ settings typeId) (ho : (key, otherFallback) ∈ settings otherType)
    (hne : typeId ≠ otherType) : key = "sku_name" ∧
      (typeId = TypeId.appServicePlan ∧ otherType = TypeId.keyVault ∨
        typeId = TypeId.keyVault ∧ otherType = TypeId.appServicePlan) := by
  simp only [mem_settings_iff, Prod.mk.injEq] at h ho
  rcases h with ⟨ha, ⟨rfl, _⟩ | ⟨rfl, _⟩⟩ | ⟨ha, ⟨rfl, _⟩ | ⟨rfl, _⟩⟩ | ⟨ha, rfl, _⟩
  all_goals simp only [String.reduceEq, false_and, and_false, or_false, false_or, true_and] at ho
  case inl.inr =>
    rcases ho with ⟨hb, _⟩ | ⟨hb, _⟩
    · exact absurd (ha.trans hb.symm) hne
    · exact ⟨rfl, .inl ⟨ha, hb⟩⟩
  case inr.inr =>
    rcases ho with ⟨hb, _⟩ | ⟨hb, _⟩
    · exact ⟨rfl, .inr ⟨ha, hb⟩⟩
    · exact absurd (ha.trans hb.symm) hne
  all_goals exact absurd (ha.trans ho.1.symm) hne

def settingKeys : List String := ["os_type", "sku_name", "account_tier", "account_replication_type"]

theorem mem_settingKeys {typeId : String} {s : String × String} (h : s ∈ settings typeId) :
    s.1 ∈ settingKeys := by
  rcases mem_settings_iff.mp h with ⟨_, rfl | rfl⟩ | ⟨_, rfl | rfl⟩ | ⟨_, rfl⟩ <;> decide

theorem key_eq_of_ending_eq {key other : String} (hkey : key ∈ settingKeys)
    (hother : other ∈ settingKeys)
    (h : ("_" ++ key).toList.reverse.take 8 = ("_" ++ other).toList.reverse.take 8) :
    key = other := by
  have hall : ∀ key ∈ settingKeys, ∀ other ∈ settingKeys,
      ("_" ++ key).toList.reverse.take 8 = ("_" ++ other).toList.reverse.take 8 → key = other := by
    decide
  exact hall key hkey other hother h

theorem take_reverse_append {label ending : String} (h : 8 ≤ ending.toList.length) :
    (label ++ ending).toList.reverse.take 8 = ending.toList.reverse.take 8 := by
  rw [String.toList_append, List.reverse_append, List.take_append_of_le_length (by simpa using h)]

theorem variableName_injective {label otherLabel key otherKey : String} (hkey : key ∈ settingKeys)
    (hother : otherKey ∈ settingKeys)
    (h : label ++ "_" ++ key = otherLabel ++ "_" ++ otherKey) :
    label = otherLabel ∧ key = otherKey := by
  have hlength : ∀ key ∈ settingKeys, 8 ≤ ("_" ++ key).toList.length := by decide
  rw [String.append_assoc, String.append_assoc] at h
  have hends := congrArg (fun name => name.toList.reverse.take 8) h
  simp only [take_reverse_append (hlength key hkey),
    take_reverse_append (hlength otherKey hother)] at hends
  obtain rfl := key_eq_of_ending_eq hkey hother hends
  exact ⟨(String.append_left_inj _).mp h, rfl⟩

variable {r : Resource} {c : Context} {key fallback : String} {v : Variable}

theorem settingVariable?_eq_some (h : settingVariable? r c key fallback = some v) :
    v.name = c.label ++ "_" ++ key ∧ v.default = some (settingProperty r key fallback) ∧
      (settingProperty r key fallback).reference? = none := by
  unfold settingVariable? Context.exposure? at h
  split at h
  · cases h
  · rename_i hmode
    cases h
    refine ⟨rfl, rfl, ?_⟩
    cases hreference : (settingProperty r key fallback).reference? with
    | none => rfl
    | some e => exact absurd (.inr (by rw [hreference]; rfl)) hmode

theorem settingAttribute_literal (r : Resource) (c : Context) (key fallback : String) :
    settingAttribute (r.setMode key .literal) c key fallback =
      (key, (settingProperty r key fallback).toValue) := by
  have hmode : (r.setMode key .literal).mode key = .literal := by
    simp [Resource.setMode, Resource.mode]
  rw [settingAttribute, settingVariable?, Context.exposure?, if_pos (.inl hmode)]
  rfl

end Settings

section Diagrams

variable {d : Diagram} {m : Member} {key fallback name : String} {v : Variable}

theorem sets_generation (hm : m ∈ d.successes catalog) :
    ∃ before after : List (String × Value),
      (∀ s ∈ settings m.resource.typeId, s.1 ∉ (before ++ after).map (·.1)) ∧
      ∀ modes, Sets { m.resource with modes } (d.context catalog m) (settings m.resource.typeId)
        before after (d.generation catalog { m with resource := { m.resource with modes } }) := by
  obtain ⟨type, htype, hgenerate⟩ := d.exists_generate_eq catalog (List.mem_filter.mp hm).2
  obtain ⟨hregistered, htypeId⟩ := get?_types_catalog.mp htype
  obtain ⟨before, after, hkeys, hsets⟩ := sets_generate hregistered hgenerate
  refine ⟨before, after, htypeId ▸ hkeys, fun modes => ?_⟩
  have hmodes : catalog.types.get?
      { m with resource := { m.resource with modes } : Member }.resource.typeId = some type := htype
  have hgeneration := hsets modes
  rw [htypeId] at hgeneration
  rw [Diagram.generation_eq_generate d catalog hmodes]
  exact hgeneration

theorem mem_declared_variables_iff (hm : m ∈ d.successes catalog) :
    v ∈ (d.generation catalog m).declared.filterMap (·.toVariable?) ↔
      ∃ key fallback, (key, fallback) ∈ settings m.resource.typeId ∧
        settingVariable? m.resource (d.context catalog m) key fallback = some v := by
  obtain ⟨_, _, _, hsets⟩ := sets_generation hm
  have hvariables := (hsets m.resource.modes).exposed
  change (d.generation catalog m).declared.filterMap (·.toVariable?) = _ at hvariables
  rw [hvariables]
  simp only [List.mem_flatMap, Option.mem_toList, Prod.exists]

theorem writesInline (hm : m ∈ d.successes catalog)
    (hs : (key, fallback) ∈ settings m.resource.typeId) :
    d.WritesInline catalog m key (settingProperty m.resource key fallback).toValue := by
  obtain ⟨before, after, hkeys, hsets⟩ := sets_generation hm
  obtain ⟨hsucceeds, _, hattributes⟩ := hsets (m.resource.modes.insert key .literal)
  refine ⟨hsucceeds, ?_⟩
  have hkey := hkeys _ hs
  rw [List.map_append, List.mem_append, not_or] at hkey
  change (d.literalGeneration catalog m key).results.flatMap (·.attributes) = _ at hattributes
  rw [hattributes, List.filter_append, List.filter_append, filter_key_eq_nil hkey.1,
    filter_key_eq_nil hkey.2, List.nil_append, List.append_nil]
  have hnodup : (((settings m.resource.typeId).map fun s => settingAttribute
      (m.resource.setMode key .literal) (d.context catalog m) s.1 s.2).map (·.1)).Nodup := by
    rw [List.map_map]
    exact nodup_settings _
  have hfound := (find?_eq_some_iff_of_nodup (fun a : String × Value => a.1) hnodup).mpr
    ⟨List.mem_map.mpr ⟨_, hs, settingAttribute_literal _ _ _ _⟩, rfl⟩
  have hsole := filter_eq_toList_find?_of_nodup (fun a : String × Value => a.1) hnodup key
  rw [hfound] at hsole
  exact hsole

theorem exposes_iff (hm : m ∈ d.successes catalog) : d.Exposes catalog m key name ↔
    ∃ fallback v, (key, fallback) ∈ settings m.resource.typeId ∧
      settingVariable? m.resource (d.context catalog m) key fallback = some v ∧ v.name = name := by
  obtain ⟨before, after, hkeys, hsets⟩ := sets_generation hm
  have hown := (hsets m.resource.modes).attributes
  change (d.generation catalog m).results.flatMap (·.attributes) = _ at hown
  have hliteral := (hsets (m.resource.modes.insert key .literal)).attributes
  change (d.literalGeneration catalog m key).results.flatMap (·.attributes) = _ at hliteral
  constructor
  · rintro ⟨_, hemitted, hdiffers⟩
    rw [hown] at hemitted
    rw [hliteral] at hdiffers
    simp only [List.mem_append, not_or] at hemitted hdiffers
    obtain ⟨⟨hnotBefore, hnotSet⟩, hnotAfter⟩ := hdiffers
    obtain ⟨⟨other, fallback⟩, hs, hattribute⟩ := List.mem_map.mp
      ((hemitted.resolve_right hnotAfter).resolve_left hnotBefore)
    obtain rfl : other = key := congrArg (·.1) hattribute
    have hvalue : Context.written (settingProperty m.resource other fallback)
        (settingVariable? m.resource (d.context catalog m) other fallback) =
          .expression ("var." ++ name) := congrArg (·.2) hattribute
    cases hvariable : settingVariable? m.resource (d.context catalog m) other fallback with
    | none =>
      rw [hvariable] at hvalue
      refine absurd (List.mem_map.mpr ⟨_, hs, ?_⟩) hnotSet
      exact (settingAttribute_literal _ _ _ _).trans (congrArg (other, ·) hvalue)
    | some v =>
      rw [hvariable] at hvalue
      injection hvalue with hvalue
      exact ⟨fallback, v, hs, hvariable, (String.append_right_inj _).mp hvalue⟩
  · rintro ⟨fallback, v, hs, hvariable, rfl⟩
    have hattribute : settingAttribute m.resource (d.context catalog m) key fallback =
        (key, .expression ("var." ++ v.name)) := by
      rw [settingAttribute, hvariable]
      rfl
    refine ⟨hm, ?_, fun hmem => ?_⟩
    · rw [hown]
      exact List.mem_append_left _ (List.mem_append_right _
        (List.mem_map.mpr ⟨_, hs, hattribute⟩))
    · have hinline : (key, Value.expression ("var." ++ v.name)) ∈
          ((d.literalGeneration catalog m key).results.flatMap (·.attributes)).filter
            (·.1 == key) := List.mem_filter.mpr ⟨hmem, BEq.rfl⟩
      rw [(writesInline hm hs).2] at hinline
      have hvalue := congrArg (·.2) (List.mem_singleton.mp hinline)
      exact Property.toValue_ne_expression (settingVariable?_eq_some hvariable).2.2 _ hvalue.symm

theorem eq_of_label_eq (hcheck : d.check = .ok ()) {other : Member}
    (hm : m ∈ d.successes catalog) (ho : other ∈ d.successes catalog)
    (htype : m.resource.typeId = other.resource.typeId)
    (hlabel : m.identity.label = other.identity.label)
    (hs : settings m.resource.typeId ≠ []) : m = other := by
  obtain ⟨type, hregistered, _⟩ := d.exists_generate_eq catalog (List.mem_filter.mp hm).2
  have hterraform : ∀ type ∈ resourceTypes, settings type.typeId ≠ [] →
      type.terraformType.isSome = true := by decide
  obtain ⟨hmem, htypeId⟩ := get?_types_catalog.mp hregistered
  exact Diagram.eq_of_label_eq hcheck (List.mem_filter.mp hm).1 (List.mem_filter.mp ho).1 hregistered
    (hterraform type hmem (htypeId ▸ hs)) htype hlabel

/-- Two settings share a variable only if they are the SKUs of a plan and a vault with one label. -/
theorem eq_or_twins_of_exposes (hcheck : d.check = .ok ()) {other : Member} {otherKey : String}
    (hm : d.Exposes catalog m key name) (ho : d.Exposes catalog other otherKey name) :
    m = other ∧ key = otherKey ∨ key = "sku_name" ∧ otherKey = "sku_name" ∧ Twins m other := by
  obtain ⟨fallback, v, hs, hv, rfl⟩ := (exposes_iff hm.1).mp hm
  obtain ⟨otherFallback, w, hsother, hw, hnames⟩ := (exposes_iff ho.1).mp ho
  rw [(settingVariable?_eq_some hw).1, (settingVariable?_eq_some hv).1] at hnames
  obtain ⟨hlabel, rfl⟩ :=
    variableName_injective (mem_settingKeys hsother) (mem_settingKeys hs) hnames
  by_cases htype : m.resource.typeId = other.resource.typeId
  · exact .inl ⟨eq_of_label_eq hcheck hm.1 ho.1 htype hlabel.symm (List.ne_nil_of_mem hs), rfl⟩
  · obtain ⟨rfl, htypes⟩ := shared_key hs hsother htype
    exact .inr ⟨rfl, rfl, hlabel.symm, htypes⟩

theorem exposes_of_mem_declared (hm : m ∈ d.successes catalog)
    (hv : v ∈ (d.generation catalog m).declared.filterMap (·.toVariable?)) :
    ∃ key inline, d.Exposes catalog m key v.name ∧ d.WritesInline catalog m key inline ∧
      v.default.map (·.toValue) = some inline := by
  obtain ⟨key, fallback, hs, hvariable⟩ := (mem_declared_variables_iff hm).mp hv
  refine ⟨key, _, (exposes_iff hm).mpr ⟨fallback, v, hs, hvariable, rfl⟩, writesInline hm hs, ?_⟩
  rw [(settingVariable?_eq_some hvariable).2.1]
  rfl

theorem mem_declared_of_exposes (h : d.Exposes catalog m key name) :
    ∃ v ∈ (d.generation catalog m).declared.filterMap (·.toVariable?), v.name = name := by
  obtain ⟨fallback, v, hs, hvariable, hname⟩ := (exposes_iff h.1).mp h
  exact ⟨v, (mem_declared_variables_iff h.1).mpr ⟨key, fallback, hs, hvariable⟩, hname⟩

theorem eq_of_exposes_before (hcheck : d.check = .ok ()) {before after : List Member}
    (hworking : d.working catalog = before ++ m :: after) {a b : Member} {aKey bKey : String}
    (ha : a ∈ before) (hb : b ∈ before) (hm : d.Exposes catalog m key name)
    (hea : d.Exposes catalog a aKey name) (heb : d.Exposes catalog b bKey name) :
    a = b ∧ aKey = bKey := by
  have hn := Diagram.nodup_id_working catalog hcheck
  have hnotin : m ∉ before := by
    intro hmem
    rw [hworking, List.map_append, List.map_cons] at hn
    exact (List.nodup_append.mp hn).2.2 _ (List.mem_map_of_mem hmem) _ List.mem_cons_self rfl
  rcases eq_or_twins_of_exposes hcheck hea heb with h | ⟨_, _, hlabel, htypes⟩
  · exact h
  · exfalso
    rcases eq_or_twins_of_exposes hcheck hea hm with ⟨rfl, _⟩ | ⟨_, _, hmlabel, hmtypes⟩
    · exact hnotin ha
    · obtain ⟨fallback, _, hs, _⟩ := (exposes_iff hm.1).mp hm
      have htype : m.resource.typeId = b.resource.typeId := by
        rcases htypes with ⟨h, hbtype⟩ | ⟨h, hbtype⟩
        · rcases hmtypes with ⟨_, hmtype⟩ | ⟨h', _⟩
          · rw [hmtype, hbtype]
          · exact absurd (h.symm.trans h') (by decide)
        · rcases hmtypes with ⟨h', _⟩ | ⟨_, hmtype⟩
          · exact absurd (h.symm.trans h') (by decide)
          · rw [hmtype, hbtype]
      have hsame := eq_of_label_eq hcheck hm.1 heb.1 htype (hmlabel.symm.trans hlabel)
        (List.ne_nil_of_mem hs)
      exact hnotin (hsame ▸ hb)

/-- The variable of a name is what the resources before a given one have declared first under it, and
failing that what this one has. -/
theorem filter_variables {before after : List Member}
    (hworking : d.working catalog = before ++ m :: after) (hm : d.Exposes catalog m key name) :
    (∃ v, (d.compileConsistent catalog).variables.filter (·.name == name) = [v] ∧ v.name = name ∧
      v ∈ (d.generation catalog m).declared.filterMap (·.toVariable?) ∧
      ∀ other ∈ before, ∀ otherKey, ¬d.Exposes catalog other otherKey name) ∨
    ∃ v, (d.compileConsistent catalog).variables.filter (·.name == name) = [v] ∧ v.name = name ∧
      ∃ other ∈ before, other ∈ d.successes catalog ∧
        v ∈ (d.generation catalog other).declared.filterMap (·.toVariable?) := by
  let declared := fun m : Member => (d.generation catalog m).declared.filterMap (·.toVariable?)
  let succeeds := fun m : Member => (d.generation catalog m).succeeds
  have hsplit : (d.successes catalog).flatMap declared = (before.filter succeeds).flatMap declared ++
      (declared m ++ (after.filter succeeds).flatMap declared) := by
    have hsucceeds : succeeds m = true := (List.mem_filter.mp hm.1).2
    change ((d.working catalog).filter succeeds).flatMap declared = _
    rw [hworking, List.filter_append, List.filter_cons_of_pos hsucceeds, List.flatMap_append,
      List.flatMap_cons]
  have hfilter : (d.compileConsistent catalog).variables.filter (·.name == name) =
      (((before.filter succeeds).flatMap declared).find? (·.name == name) |>.or
        ((declared m ++ (after.filter succeeds).flatMap declared).find? (·.name == name))).toList := by
    rw [← List.find?_append, ← hsplit, Diagram.variables_compileConsistent, filter_firstNamed]
  cases hearlier : ((before.filter succeeds).flatMap declared).find? (·.name == name) with
  | some v =>
    right
    obtain ⟨other, hother, hv⟩ := List.mem_flatMap.mp (List.mem_of_find?_eq_some hearlier)
    obtain ⟨hbefore, hsucceeds⟩ := List.mem_filter.mp hother
    refine ⟨v, by rw [hfilter, hearlier]; rfl, by simpa using List.find?_some hearlier, other, hbefore,
      List.mem_filter.mpr ⟨hworking ▸ List.mem_append_left _ hbefore, hsucceeds⟩, hv⟩
  | none =>
    left
    obtain ⟨own, hown, hname⟩ := mem_declared_of_exposes hm
    obtain ⟨v, hv⟩ := Option.isSome_iff_exists.mp
      (List.find?_isSome (p := (·.name == name)).mpr ⟨own, hown, beq_iff_eq.mpr hname⟩)
    refine ⟨v, ?_, by simpa using List.find?_some hv, List.mem_of_find?_eq_some hv, ?_⟩
    · rw [hfilter, hearlier, Option.none_or, List.find?_append]
      change ((declared m).find? (·.name == name) |>.or _).toList = [v]
      rw [hv]
      rfl
    · intro other hother otherKey hexposes
      obtain ⟨w, hw, hwname⟩ := mem_declared_of_exposes hexposes
      have hmem : w ∈ (before.filter succeeds).flatMap declared := List.mem_flatMap.mpr
        ⟨other, List.mem_filter.mpr ⟨hother, (List.mem_filter.mp hexposes.1).2⟩, hw⟩
      exact List.find?_eq_none.mp hearlier w hmem (beq_iff_eq.mpr hwname)

end Diagrams

/-- A setting that is exposed is a variable of its own name, and there is just one variable of that
name. Its default is the value that the setting would have in place exactly if that holds for the
earlier resource, if any, that exposes a setting under the same name. Only the SKUs of a plan and a
vault with one label can come into this. -/
theorem compile_exposes_first_value (d : Diagram) (c : Compiled) (hc : d.compile catalog = .ok c) :
    (∀ before m after key name, d.working catalog = before ++ m :: after →
      d.Exposes catalog m key name →
      ∃ inline v, d.WritesInline catalog m key inline ∧
        (∃ fallback, (key, fallback) ∈ settings m.resource.typeId ∧
          inline = ((m.resource.present? key).getD (.string fallback)).toValue) ∧
        c.variables.filter (·.name == name) = [v] ∧
        (v.default.map (·.toValue) = some inline ↔
          ∀ other ∈ before, ∀ otherKey otherInline, d.Exposes catalog other otherKey name →
            d.WritesInline catalog other otherKey otherInline → otherInline = inline)) ∧
    ∀ m key other otherKey name, d.Exposes catalog m key name →
      d.Exposes catalog other otherKey name → (m, key) ≠ (other, otherKey) →
        key = "sku_name" ∧ otherKey = "sku_name" ∧ Twins m other := by
  obtain ⟨hcheck, rfl⟩ := Diagram.compile_eq_ok_iff.mp hc
  refine ⟨fun before m after key name hworking hm => ?_,
    fun m key other otherKey name hm ho hne => ?_⟩
  · obtain ⟨fallback, own, hs, hown, hname⟩ := (exposes_iff hm.1).mp hm
    have hinline := writesInline hm.1 hs
    rcases filter_variables hworking hm with ⟨v, hv, rfl, hdeclared, hnone⟩ |
      ⟨v, hv, rfl, first, hfirst, hsuccess, hdeclared⟩
    · obtain ⟨otherKey, value, hother, hvalue, hdefault⟩ := exposes_of_mem_declared hm.1 hdeclared
      have hkeys : otherKey = key := by
        rcases eq_or_twins_of_exposes hcheck hother hm with ⟨_, h⟩ | ⟨h, h', _⟩
        · exact h
        · exact h.trans h'.symm
      rw [hkeys] at hvalue
      rw [hvalue.unique hinline] at hdefault
      exact ⟨_, v, hinline, ⟨fallback, hs, rfl⟩, hv, iff_of_true hdefault
        fun other hbefore otherKey _ hexposes _ => absurd hexposes (hnone other hbefore otherKey)⟩
    · obtain ⟨firstKey, value, hexposes, hvalue, hdefault⟩ :=
        exposes_of_mem_declared hsuccess hdeclared
      refine ⟨_, v, hinline, ⟨fallback, hs, rfl⟩, hv, ?_⟩
      rw [hdefault, Option.some.injEq]
      constructor
      · rintro rfl other hother otherKey otherInline hoexposes howrites
        obtain ⟨rfl, rfl⟩ := eq_of_exposes_before hcheck hworking hfirst hother hm hexposes hoexposes
        exact howrites.unique hvalue
      · intro hall
        exact hall first hfirst firstKey value hexposes hvalue
  · rcases eq_or_twins_of_exposes hcheck hm ho with ⟨rfl, rfl⟩ | h
    · exact absurd rfl hne
    · exact h

def skuNode (id typeId sku : String) (others : List (String × Property)) : Resource where
  id := id
  typeId := typeId
  name := "main"
  properties := Dictionary.ofList ([("location", .string "westeurope"),
    ("resource_group_name", .string "rg"), ("sku_name", .string sku)] ++ others)
  modes := Dictionary.empty.insert "sku_name" .exposed

/-- A plan and a vault of one name, each with a SKU of its own. -/
def skuDiagram : Diagram where
  nodes := [skuNode "plan" TypeId.appServicePlan "P1v3" [], skuNode "vault" TypeId.keyVault "premium" []]

def skuPlan : Member where
  resource := skuNode "plan" TypeId.appServicePlan "P1v3" [("os_type", .string "Linux")]
  identity := ⟨"main", "main", some "azurerm_service_plan"⟩

def skuVault : Member where
  resource := skuNode "vault" TypeId.keyVault "premium" []
  identity := ⟨"main", "main", some "azurerm_key_vault"⟩

theorem working_skuDiagram : skuDiagram.working catalog = [skuPlan, skuVault] := by decide +kernel

theorem skuPlan_mem_successes : skuPlan ∈ skuDiagram.successes catalog :=
  List.mem_filter.mpr ⟨by rw [working_skuDiagram]; exact List.mem_cons_self, by decide +kernel⟩

theorem skuVault_mem_successes : skuVault ∈ skuDiagram.successes catalog :=
  List.mem_filter.mpr
    ⟨by rw [working_skuDiagram]; exact List.mem_cons_of_mem _ List.mem_cons_self, by decide +kernel⟩

theorem exposes_skuPlan : skuDiagram.Exposes catalog skuPlan "sku_name" "main_sku_name" :=
  (exposes_iff skuPlan_mem_successes).mpr
    ⟨"B1", _, List.mem_cons_of_mem _ List.mem_cons_self, rfl, by decide⟩

theorem exposes_skuVault : skuDiagram.Exposes catalog skuVault "sku_name" "main_sku_name" :=
  (exposes_iff skuVault_mem_successes).mpr ⟨"standard", _, List.mem_cons_self, rfl, by decide⟩

theorem compile_exposes_first_value_plan : ∃ c v, skuDiagram.compile catalog = .ok c ∧
    c.variables.filter (·.name == "main_sku_name") = [v] ∧
      v.default.map (·.toValue) = some (.string "P1v3") := by
  obtain ⟨inline, v, _, ⟨fallback, _, rfl⟩, hv, hdefault⟩ :=
    (compile_exposes_first_value skuDiagram _ rfl).1 [] skuPlan [skuVault] "sku_name" "main_sku_name"
      working_skuDiagram exposes_skuPlan
  exact ⟨_, v, rfl, hv, hdefault.mpr fun _ h => absurd h List.not_mem_nil⟩

/-- The vault would have its own SKU in place, but the variable that it refers to has that of the
plan. -/
theorem exposed_sku_of_another_resource :
    skuDiagram.Exposes catalog skuVault "sku_name" "main_sku_name" ∧
      skuDiagram.WritesInline catalog skuVault "sku_name" (.string "premium") ∧
      ∃ c, skuDiagram.compile catalog = .ok c ∧
        c.variables.map (fun v => (v.name, v.default)) =
          [("main_sku_name", some (.string "P1v3"))] := by
  have hsku : ("sku_name", "standard") ∈ settings skuVault.resource.typeId := List.mem_cons_self
  exact ⟨exposes_skuVault, writesInline skuVault_mem_successes hsku, _, rfl, by decide +kernel⟩

end Azure

end Groundplan
