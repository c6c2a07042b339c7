import Groundplan.Proofs.Governing
import Groundplan.Proofs.Isolation

/-!
# Missing properties

A property is reported as missing when a required entry of the schema comes to it, finds it unset and
has no default. The rest of the schema may still supply a value, and a blank default counts as one; so
there are required properties that are reported although they get a value, and others that stay unset
without a report. All other required properties are reported just if they stay unset.
-/

namespace Groundplan

/-- Whether a schema asks for a property before it has a value for it: it comes to a required entry
without a default, and no entry before that one has a default to offer. -/
inductive AsksInVain (key : String) : List PropertySchema → Prop
  | here {s : PropertySchema} {schema : List PropertySchema} (hkey : s.key = key)
      (hrequired : s.required = true) (hdefault : s.default = none) : AsksInVain key (s :: schema)
  | later {s : PropertySchema} {schema : List PropertySchema} (hfallback : s.fallback? key = none)
      (hrest : AsksInVain key schema) : AsksInVain key (s :: schema)

/-- Whether no entry of a schema has a value for a property. -/
def OffersNothing (schema : List PropertySchema) (key : String) : Prop :=
  ∀ s ∈ schema, s.fallback? key = none

/-- Whether a schema asks for a property first and has a value for it afterwards. -/
def FilledTooLate (schema : List PropertySchema) (key : String) : Prop :=
  AsksInVain key schema ∧ ¬OffersNothing schema key

/-- Whether a schema requires a property, has blank defaults alone for it, and has one wherever it
requires the property. -/
structure FilledWithBlank (schema : List PropertySchema) (key : String) : Prop where
  required : ∃ s ∈ schema, s.key = key ∧ s.required = true
  offersNothing : OffersNothing schema key
  hasDefault : ∀ s ∈ schema, s.key = key → s.required = true → s.default.isSome

section Schemas

variable {schema : List PropertySchema} {key : String}

theorem not_asksInVain_nil : ¬AsksInVain key [] := nofun

theorem asksInVain_cons_iff {s : PropertySchema} : AsksInVain key (s :: schema) ↔
    (s.key = key ∧ s.required = true ∧ s.default = none) ∨
      (s.fallback? key = none ∧ AsksInVain key schema) := by
  constructor
  · intro h
    cases h with
    | here hkey hrequired hdefault => exact .inl ⟨hkey, hrequired, hdefault⟩
    | later hfallback hrest => exact .inr ⟨hfallback, hrest⟩
  · rintro (⟨hkey, hrequired, hdefault⟩ | ⟨hfallback, hrest⟩)
    · exact .here hkey hrequired hdefault
    · exact .later hfallback hrest

theorem OffersNothing.asksInVain_iff (h : OffersNothing schema key) : AsksInVain key schema ↔
    ∃ s ∈ schema, s.key = key ∧ s.required = true ∧ s.default = none := by
  induction schema with
  | nil => simp [not_asksInVain_nil]
  | cons s schema ih =>
    obtain ⟨hfirst, hrest⟩ := List.forall_mem_cons.mp h
    rw [asksInVain_cons_iff, List.exists_mem_cons_iff, ih hrest, and_iff_right hfirst]

/-- A required property that is unset stays so without having been asked for in vain just if it is
filled with a blank value. -/
theorem filledWithBlank_iff (hrequired : ∃ s ∈ schema, s.key = key ∧ s.required = true) :
    FilledWithBlank schema key ↔ OffersNothing schema key ∧ ¬AsksInVain key schema := by
  constructor
  · rintro ⟨_, hnothing, hdefault⟩
    refine ⟨hnothing, fun hasks => ?_⟩
    obtain ⟨s, hs, hkey, hmandatory, hnone⟩ := hnothing.asksInVain_iff.mp hasks
    exact Option.ne_none_iff_isSome.mpr (hdefault s hs hkey hmandatory) hnone
  · rintro ⟨hnothing, hnot⟩
    refine ⟨hrequired, hnothing, fun s hs hkey hmandatory => ?_⟩
    exact Option.ne_none_iff_isSome.mp fun hnone =>
      hnot (hnothing.asksInVain_iff.mpr ⟨s, hs, hkey, hmandatory, hnone⟩)

theorem ResourceType.mem_requiredKeys_iff {type : ResourceType} :
    key ∈ type.requiredKeys ↔ ∃ s ∈ type.schema, s.key = key ∧ s.required = true := by
  rw [requiredKeys, List.mem_map]
  constructor
  · rintro ⟨s, hs, hkey⟩
    obtain ⟨hmem, hrequired⟩ := List.mem_filter.mp hs
    exact ⟨s, hmem, hkey, hrequired⟩
  · rintro ⟨s, hmem, hkey, hrequired⟩
    exact ⟨s, List.mem_filter.mpr ⟨hmem, hrequired⟩, hkey⟩

theorem Resource.missingFinding_inj {r : Resource} {other : String}
    (h : (r.missingFinding key).message = (r.missingFinding other).message) : key = other := by
  rw [missingFinding, missingFinding, String.append_left_inj, String.append_right_inj] at h
  exact h

theorem PropertySchema.missingFinding_fill (s : PropertySchema) (r : Resource) :
    (s.fill r).1.missingFinding key = r.missingFinding key := by
  obtain ⟨properties, h⟩ := s.fill_eq r
  rw [h]
  rfl

theorem PropertySchema.mem_fill_iff {s : PropertySchema} {r : Resource} {f : Finding} :
    f ∈ (s.fill r).2 ↔ r.present? s.key = none ∧ (s.required = true ∧ s.default = none) ∧
      f = r.missingFinding s.key := by
  unfold PropertySchema.fill
  cases r.present? s.key with
  | some value => simp
  | none =>
    cases s.default with
    | some value => simp
    | none => cases s.required <;> simp

/-- What comes up while defaults are filled in: the unset properties that the schema asks for in
vain. -/
theorem mem_fillDefaults_iff {r : Resource} {f : Finding} : f ∈ (fillDefaults schema r).2 ↔
    ∃ key, r.present? key = none ∧ AsksInVain key schema ∧ f = r.missingFinding key := by
  induction schema generalizing r with
  | nil => simp [fillDefaults, not_asksInVain_nil]
  | cons s schema ih =>
    have hrest : f ∈ (fillDefaults schema (s.fill r).1).2 ↔ ∃ key, r.present? key = none ∧
        (s.fallback? key = none ∧ AsksInVain key schema) ∧ f = r.missingFinding key := by
      simp only [ih, s.present?_fill, Option.or_eq_none_iff, s.missingFinding_fill, and_assoc]
    show f ∈ (s.fill r).2 ++ (fillDefaults schema (s.fill r).1).2 ↔ _
    rw [List.mem_append, PropertySchema.mem_fill_iff, hrest]
    constructor
    · rintro (⟨hunset, ⟨hrequired, hdefault⟩, rfl⟩ | ⟨key, hunset, ⟨hfallback, hasks⟩, rfl⟩)
      · exact ⟨s.key, hunset, .here rfl hrequired hdefault, rfl⟩
      · exact ⟨key, hunset, .later hfallback hasks, rfl⟩
    · rintro ⟨key, hunset, hasks, rfl⟩
      rcases asksInVain_cons_iff.mp hasks with ⟨rfl, hentry⟩ | hlater
      · exact .inl ⟨hunset, hentry, rfl⟩
      · exact .inr ⟨key, hunset, hlater, rfl⟩

theorem present?_fillDefaults_eq_none_iff {r : Resource} :
    (fillDefaults schema r).1.present? key = none ↔
      r.present? key = none ∧ OffersNothing schema key := by
  rw [present?_fillDefaults, Option.or_eq_none_iff, List.findSome?_eq_none_iff]
  rfl

end Schemas

namespace Member

variable {types : Registry} {member : Member} {type : ResourceType}

theorem mem_withDefaults_iff (htype : types.get? member.resource.typeId = some type) {f : Finding} :
    f ∈ (member.withDefaults types).2 ↔ ∃ key, member.resource.present? key = none ∧
      AsksInVain key type.schema ∧ f = member.resource.missingFinding key := by
  unfold withDefaults
  rw [htype]
  exact mem_fillDefaults_iff

theorem present?_withDefaults_eq_none_iff
    (htype : types.get? member.resource.typeId = some type) {key : String} :
    (member.withDefaults types).1.resource.present? key = none ↔
      member.resource.present? key = none ∧ OffersNothing type.schema key := by
  unfold withDefaults
  rw [htype]
  exact present?_fillDefaults_eq_none_iff

theorem node_of_mem_withDefaults {f : Finding} (h : f ∈ (member.withDefaults types).2) :
    f.node = some member.resource.id := by
  cases htype : types.get? member.resource.typeId with
  | none =>
    rw [withDefaults, htype] at h
    cases h
  | some type =>
    obtain ⟨key, _, _, rfl⟩ := (mem_withDefaults_iff htype).mp h
    rfl

end Member

/-- Whether a configuration comes with the report that a node is missing a property. -/
def Compiled.ReportsMissing (c : Compiled) (node : Resource) (key : String) : Prop :=
  ∃ f ∈ c.findings, f.kind = .missingProperty ∧ f.node = some node.id ∧
    f.message = "'" ++ node.name ++ "' is missing required property '" ++ key ++ "'"

namespace Diagram

variable {d : Diagram} {catalog : Catalog}

theorem mem_findings_and_kind_eq_iff {f : Finding} :
    f ∈ (d.compileConsistent catalog).findings ∧ f.kind = .missingProperty ↔
      ∃ member ∈ (d.connected catalog).members, f ∈ (member.withDefaults catalog.types).2 := by
  have hother : ∀ {kinds : List FindingKind} {findings : List Finding},
      Finding.OfKinds kinds findings → FindingKind.missingProperty ∉ kinds → f ∈ findings →
        f.kind ≠ .missingProperty :=
    fun hkinds hnot hf hkind => hnot (hkind ▸ (hkinds f hf).1)
  rw [findings_eq, earlyFindings]
  constructor
  · rintro ⟨hf, hkind⟩
    simp only [List.mem_append] at hf
    rcases hf with ((hf | hf) | hf) | hf
    · exact absurd hkind (hother (ofKinds_connectAll _ _ _) (by decide) hf)
    · obtain ⟨entry, hentry, hf⟩ := List.mem_flatMap.mp hf
      obtain ⟨member, hmember, rfl⟩ := List.mem_map.mp hentry
      exact ⟨member, hmember, hf⟩
    · exact absurd hkind (hother (ProviderBlocks.ofKinds_build _ _ _) (by decide) hf)
    · exact absurd hkind (hother (Member.ofKinds_failures _ _ _ _) (by decide) hf)
  · rintro ⟨member, hmember, hf⟩
    have hfilled : f ∈ ((d.connected catalog).filled catalog.types).flatMap (·.2) :=
      List.mem_flatMap.mpr ⟨_, List.mem_map_of_mem hmember, hf⟩
    constructor
    · simp only [List.mem_append]
      exact .inl (.inl (.inr hfilled))
    · simpa using (Connecting.ofKinds_filled _ _ f hfilled).1

theorem map_id_connected (hcheck : d.check = .ok ()) :
    (d.connected catalog).members.map (·.resource.id) = d.nodes.map (·.id) := by
  rw [members_connected hcheck, List.map_map, ← d.map_id_members catalog]
  exact List.map_congr_left fun member _ =>
    Member.id_eq_of_bare (Member.bare_foldl_receive _ member)

/-- A node is reported to miss the properties that are unset after connecting and for which the
schema of its type asks in vain. -/
theorem reportsMissing_iff (hcheck : d.check = .ok ()) {member : Member}
    (hmember : member ∈ (d.connected catalog).members) {type : ResourceType}
    (htype : catalog.types.get? member.resource.typeId = some type) {key : String} :
    (d.compileConsistent catalog).ReportsMissing member.resource key ↔
      member.resource.present? key = none ∧ AsksInVain key type.schema := by
  have hnodup : ((d.connected catalog).members.map (·.resource.id)).Nodup := by
    rw [map_id_connected hcheck]
    exact (check_eq_ok_iff.mp hcheck).1
  constructor
  · rintro ⟨f, hf, hkind, hnode, hmessage⟩
    obtain ⟨other, hother, hfound⟩ := mem_findings_and_kind_eq_iff.mp ⟨hf, hkind⟩
    have hid : other.resource.id = member.resource.id :=
      Option.some.inj ((Member.node_of_mem_withDefaults hfound).symm.trans hnode)
    obtain rfl : other = member := Member.eq_of_id_eq hnodup hother hmember hid
    obtain ⟨asked, hunset, hasks, rfl⟩ := (Member.mem_withDefaults_iff htype).mp hfound
    obtain rfl : asked = key := Resource.missingFinding_inj hmessage
    exact ⟨hunset, hasks⟩
  · rintro ⟨hunset, hasks⟩
    have hfound := (Member.mem_withDefaults_iff htype).mpr ⟨key, hunset, hasks, rfl⟩
    obtain ⟨hf, hkind⟩ := mem_findings_and_kind_eq_iff.mpr ⟨member, hmember, hfound⟩
    exact ⟨_, hf, hkind, rfl, rfl⟩

end Diagram

/-- What is reported as missing, and what is unset in the working copies; for a required property the
two are the same unless a value of the schema comes too late or is blank. -/
theorem compile_reports_missing (d : Diagram) (catalog : Catalog) (hcheck : d.check = .ok ()) :
    ∃ c, d.compile catalog = .ok c ∧
      (d.connected catalog).members.map (·.resource.id) = d.nodes.map (·.id) ∧
      d.working catalog =
        (d.connected catalog).members.map (fun m => (m.withDefaults catalog.types).1) ∧
      ∀ m ∈ (d.connected catalog).members, ∀ type,
        catalog.types.get? m.resource.typeId = some type → ∀ key,
          (c.ReportsMissing m.resource key ↔
            m.resource.present? key = none ∧ AsksInVain key type.schema) ∧
          ((m.withDefaults catalog.types).1.resource.present? key = none ↔
            m.resource.present? key = none ∧ OffersNothing type.schema key) ∧
          (key ∈ type.requiredKeys →
            ((c.ReportsMissing m.resource key ↔
                (m.withDefaults catalog.types).1.resource.present? key = none) ↔
              (m.resource.present? key = none →
                ¬FilledTooLate type.schema key ∧ ¬FilledWithBlank type.schema key))) := by
  refine ⟨_, Diagram.compile_eq_ok_iff.mpr ⟨hcheck, rfl⟩, Diagram.map_id_connected hcheck, ?_, ?_⟩
  · rw [Diagram.working, Connecting.filled, List.map_map]
    rfl
  · intro m hm type htype key
    have hreports : (d.compileConsistent catalog).ReportsMissing m.resource key ↔
        m.resource.present? key = none ∧ AsksInVain key type.schema :=
      Diagram.reportsMissing_iff hcheck hm htype
    have hunset : (m.withDefaults catalog.types).1.resource.present? key = none ↔
        m.resource.present? key = none ∧ OffersNothing type.schema key :=
      Member.present?_withDefaults_eq_none_iff htype
    refine ⟨hreports, hunset, fun hrequired => ?_⟩
    rw [hreports, hunset, and_congr_right_iff, FilledTooLate,
      filledWithBlank_iff (ResourceType.mem_requiredKeys_iff.mp hrequired), not_and_not_right,
      not_and_not_right]
    exact imp_congr_right fun _ => iff_iff_implies_and_implies

/-- A hydrant must have a site, for which the schema has nothing but a blank default. -/
def hydrantType : ResourceType where
  typeId := "plant/hydrant"
  provider := "plant"
  terraformType := some "plant_hydrant"
  schema := [{ key := "site", label := "Site", kind := .string, required := true
               default := some (.string "") }]

/-- A sluice must have a feed and a drain; there is a default for the feed, but in an entry of its
own. -/
def sluiceType : ResourceType where
  typeId := "plant/sluice"
  provider := "plant"
  terraformType := some "plant_sluice"
  schema :=
    [{ key := "feed", label := "Feed", kind := .string, required := true },
     { key := "feed", label := "Feed", kind := .string, default := some (.string "well") },
     { key := "drain", label := "Drain", kind := .string, required := true }]

def sluiceCatalog : Catalog where
  types := [hydrantType, sluiceType].foldl Registry.register .empty

def hydrant : Resource where
  id := "a"
  typeId := "plant/hydrant"
  name := "main"

def sluice : Resource where
  id := "b"
  typeId := "plant/sluice"
  name := "main"

def sluiceDiagram : Diagram where
  nodes := [hydrant, sluice]

/-- The feed of the sluice is reported and gets a value, the drain is reported and stays unset. -/
theorem compile_reports_missing_sluice : sluiceDiagram.check = .ok () ∧
    ∃ c, sluiceDiagram.compile sluiceCatalog = .ok c ∧
      (∃ m ∈ sluiceDiagram.working sluiceCatalog, m.resource.id = "b" ∧
        m.resource.present? "feed" = some (.string "well") ∧ m.resource.present? "drain" = none) ∧
      c.ReportsMissing sluice "feed" ∧ c.ReportsMissing sluice "drain" ∧
      ¬c.ReportsMissing hydrant "site" := by
  have hcheck : sluiceDiagram.check = .ok () := by decide
  obtain ⟨c, hc, -, -, hmissing⟩ := compile_reports_missing sluiceDiagram sluiceCatalog hcheck
  have hhydrant := hmissing (sluiceDiagram.connected sluiceCatalog).members[0]
    (List.getElem_mem _) hydrantType rfl
  have hsluice := hmissing (sluiceDiagram.connected sluiceCatalog).members[1]
    (List.getElem_mem _) sluiceType rfl
  refine ⟨hcheck, c, hc, ⟨(sluiceDiagram.working sluiceCatalog)[1], List.getElem_mem _, rfl, rfl,
    rfl⟩, ?_, ?_, ?_⟩
  · exact (hsluice "feed").1.mpr ⟨rfl, .here rfl rfl rfl⟩
  · exact (hsluice "drain").1.mpr ⟨rfl, .later rfl (.later rfl (.here rfl rfl rfl))⟩
  · intro hreported
    cases ((hhydrant "site").1.mp hreported).2 with
    | here _ _ hdefault => cases hdefault
    | later _ hrest => exact not_asksInVain_nil hrest

def hydrantCatalog : Catalog where
  types := Registry.register .empty hydrantType

def hydrantDiagram : Diagram where
  nodes := [hydrant]

/-- The site of the hydrant is required and stays unset, and nothing is reported. -/
theorem unset_without_report : hydrantDiagram.check = .ok () ∧
    ∃ c, hydrantDiagram.compile hydrantCatalog = .ok c ∧
      ∃ m ∈ hydrantDiagram.working hydrantCatalog,
        hydrantCatalog.types.get? m.resource.typeId = some hydrantType ∧
        "site" ∈ hydrantType.requiredKeys ∧ m.resource.property? "site" = some (.string "") ∧
        ¬c.ReportsMissing m.resource "site" := by
  have hfindings : (hydrantDiagram.compileConsistent hydrantCatalog).findings = [] := rfl
  refine ⟨by decide, _, rfl, (hydrantDiagram.working hydrantCatalog)[0], List.getElem_mem _, rfl,
    by decide, rfl, ?_⟩
  rintro ⟨f, hf, -⟩
  rw [hfindings] at hf
  cases hf

end Groundplan
