import Groundplan.Proofs.Governing

/-!
# The authority of connections

A property that edges govern holds what the last of them has written when providers and generators
get to see it, with one exception. An end without a block is referred to by its name; if that is
empty, the connection writes a blank value, which gives way to a default of the schema.
-/

namespace Groundplan

/-- What a blank value of a property becomes: the first default of the property that is set, failing
that the last one there is. -/
def defaultOf? (schema : List PropertySchema) (key : String) : Option Property :=
  let defaults := (schema.filter (·.key == key)).filterMap (·.default)
  (defaults.find? (!·.isBlank)).or defaults.getLast?

def Registry.defaultOf? (types : Registry) (typeId key : String) : Option Property :=
  (types.get? typeId).bind fun type => Groundplan.defaultOf? type.schema key

theorem defaultOf?_cons_of_ne {s : PropertySchema} {key : String} (h : s.key ≠ key)
    (schema : List PropertySchema) : defaultOf? (s :: schema) key = defaultOf? schema key := by
  rw [defaultOf?, List.filter_cons_of_neg (by simpa using h)]
  rfl

theorem defaultOf?_cons_of_none {s : PropertySchema} (h : s.default = none) (key : String)
    (schema : List PropertySchema) : defaultOf? (s :: schema) key = defaultOf? schema key := by
  by_cases hkey : s.key = key
  · rw [defaultOf?, List.filter_cons_of_pos (by simpa using hkey), List.filterMap_cons_none h]
    rfl
  · exact defaultOf?_cons_of_ne hkey schema

theorem defaultOf?_cons_of_set {s : PropertySchema} {default : Property}
    (hdefault : s.default = some default) (hset : default.isBlank = false)
    (schema : List PropertySchema) : defaultOf? (s :: schema) s.key = some default := by
  rw [defaultOf?, List.filter_cons_of_pos (by simp), List.filterMap_cons_some hdefault,
    List.find?_cons_of_pos (by simp [hset]), Option.some_or]

theorem defaultOf?_cons_of_blank {s : PropertySchema} {default : Property}
    (hdefault : s.default = some default) (hblank : default.isBlank = true)
    (schema : List PropertySchema) : defaultOf? (s :: schema) s.key =
      some ((defaultOf? schema s.key).getD default) := by
  rw [defaultOf?, List.filter_cons_of_pos (by simp), List.filterMap_cons_some hdefault,
    List.find?_cons_of_neg (by simp [hblank]), List.getLast?_cons, defaultOf?]
  cases ((schema.filter (·.key == s.key)).filterMap (·.default)).find? (!·.isBlank) <;> rfl

theorem PropertySchema.property?_fill_of_blank (s : PropertySchema) {r : Resource} {key : String}
    {value : Property} (h : r.property? key = some value) (hblank : value.isBlank = true) :
    (s.fill r).1.property? key =
      some (if s.key = key then s.default.getD value else value) := by
  unfold PropertySchema.fill
  by_cases hkey : s.key = key
  · have hunset : r.present? s.key = none := by
      rw [Resource.present?, hkey, h, Option.filter_some, if_neg (by simp [hblank])]
    rw [if_pos hkey, hunset]
    cases s.default with
    | none => exact h
    | some default => exact hkey ▸ Resource.property?_setProperty_self r s.key default
  · rw [if_neg hkey]
    split
    · exact h
    · rw [Resource.property?_setProperty_of_ne _ _ (Ne.symm hkey), h]
    · exact h

/-- Filling in defaults replaces a blank value by the default that counts, if there is one. -/
theorem property?_fillDefaults_of_blank (schema : List PropertySchema) {r : Resource} {key : String}
    {value : Property} (h : r.property? key = some value) (hblank : value.isBlank = true) :
    (fillDefaults schema r).1.property? key =
      some ((defaultOf? schema key).getD value) := by
  induction schema generalizing r value with
  | nil => exact h
  | cons s schema ih =>
    have hfilled := s.property?_fill_of_blank h hblank
    by_cases hkey : s.key = key
    · subst hkey
      rw [if_pos rfl] at hfilled
      cases hdefault : s.default with
      | none =>
        rw [hdefault] at hfilled
        rw [defaultOf?_cons_of_none hdefault]
        exact ih hfilled hblank
      | some default =>
        rw [hdefault, Option.getD_some] at hfilled
        cases hset : default.isBlank with
        | true =>
          rw [defaultOf?_cons_of_blank hdefault hset]
          exact ih hfilled hset
        | false =>
          have hpresent : (s.fill r).1.present? s.key = some default := by
            rw [Resource.present?, hfilled, Option.filter_some, if_pos (by simp [hset])]
          have hkept : (fillDefaults schema (s.fill r).1).1.present? s.key = some default := by
            rw [present?_fillDefaults, hpresent, Option.some_or]
          rw [defaultOf?_cons_of_set hdefault hset]
          exact (Option.filter_eq_some_iff.mp hkept).1
    · rw [if_neg hkey] at hfilled
      rw [defaultOf?_cons_of_ne hkey]
      exact ih hfilled hblank

theorem Member.property?_withDefaults_of_blank (types : Registry) {member : Member} {key : String}
    {value : Property} (h : member.resource.property? key = some value)
    (hblank : value.isBlank = true) :
    (member.withDefaults types).1.resource.property? key =
      some ((types.defaultOf? member.resource.typeId key).getD value) := by
  unfold withDefaults Registry.defaultOf?
  cases types.get? member.resource.typeId with
  | none => exact h
  | some type => exact property?_fillDefaults_of_blank type.schema h hblank

namespace Diagram

variable (d : Diagram) (catalog : Catalog)

/-- The identity to which the governing rule of an edge refers. -/
def referred? (edge : Edge) : Option Identity := do
  let rule ← d.governingRule? catalog edge
  let directive ← rule.reference
  d.identity? catalog (match directive.side with
    | .source => edge.target
    | .target => edge.source)

variable {d catalog}

/-- An edge writes a blank value just if it refers to something without a block and without a name. -/
theorem isBlank_injection?_iff {edge : Edge} {w : Writing}
    (h : d.injection? catalog edge = some w) : w.value.isBlank = true ↔
      ∃ i, d.referred? catalog edge = some i ∧ i.terraformType = none ∧ i.resolvedName = "" := by
  simp only [injection?, Option.bind_eq_bind, Option.bind_eq_some_iff] at h
  obtain ⟨rule, hrule, directive, hdirective, h⟩ := h
  have hreferred : d.referred? catalog edge = d.identity? catalog (match directive.side with
      | .source => edge.target
      | .target => edge.source) := by
    rw [referred?, hrule, Option.bind_eq_bind, Option.bind_some, hdirective]
    rfl
  have hvalue : ∃ i, d.referred? catalog edge = some i ∧
      w.value = i.reference (directive.attributeName.getD "id") := by
    rw [hreferred]
    cases hside : directive.side with
    | source =>
      rw [hside] at h
      obtain ⟨i, hi, hw⟩ := h
      cases hw
      exact ⟨i, hi, (i.reference_eq _).symm⟩
    | target =>
      rw [hside] at h
      obtain ⟨i, hi, hw⟩ := h
      cases hw
      exact ⟨i, hi, (i.reference_eq _).symm⟩
  obtain ⟨i, hi, hvalue⟩ := hvalue
  rw [hvalue, hi, Identity.reference_eq]
  cases htype : i.terraformType with
  | none => simp [Property.isBlank, htype]
  | some type => simp [Property.isBlank, htype]

theorem property?_workingCopy_of_governed {member : Member} {key : String} {edge : Edge}
    (hlast : (d.governing catalog d.edges member.resource.id key).getLast? = some edge)
    {w : Writing} (hw : d.injection? catalog edge = some w) :
    (d.workingCopy catalog member).resource.property? key =
      some (if w.value.isBlank then
          (catalog.types.defaultOf? member.resource.typeId key).getD w.value
        else w.value) := by
  have hwriting : lastWriting? (d.writings catalog) member.resource.id key = some w := by
    rw [lastWriting?_writings, hlast, Option.bind_some, hw]
  cases hblank : w.value.isBlank with
  | false =>
    rw [if_neg (by simp)]
    exact (Option.filter_eq_some_iff.mp (present?_workingCopy catalog hwriting hblank)).1
  | true =>
    have hconnected : ((d.writings catalog).foldl Member.receive member).resource.property? key =
        some w.value := by
      rw [Member.property?_foldl_receive, hwriting]
      rfl
    rw [if_pos rfl, workingCopy, Member.property?_withDefaults_of_blank _ hconnected hblank,
      Member.typeId_eq_of_bare (Member.bare_foldl_receive _ member)]

end Diagram

/-- Wherever edges govern a property, providers and generators get to see what the last of them has
written, unless that is the empty name of something without a block and the schema has another
default. -/
theorem compile_upholds_connections (d : Diagram) (catalog : Catalog) (hcheck : d.check = .ok ()) :
    (d.working catalog).map (·.resource.id) = d.nodes.map (·.id) ∧
    ∀ m ∈ d.working catalog, ∀ key edge,
      (d.governing catalog d.edges m.resource.id key).getLast? = some edge →
      ∃ w, d.injection? catalog edge = some w ∧ w.receiver = m.resource.id ∧ w.key = key ∧
        (w.value.isBlank = true ↔ ∃ i, d.referred? catalog edge = some i ∧
          i.terraformType = none ∧ i.resolvedName = "") ∧
        m.resource.property? key = some (if w.value.isBlank then
          (catalog.types.defaultOf? m.resource.typeId key).getD w.value else w.value) := by
  refine ⟨Diagram.map_id_working catalog hcheck, ?_⟩
  intro m hm key edge hlast
  rw [Diagram.working_eq catalog hcheck] at hm
  obtain ⟨member, _, rfl⟩ := List.mem_map.mp hm
  rw [Diagram.id_workingCopy] at hlast
  have hgoverns := (List.mem_filter.mp (List.mem_of_getLast? hlast)).2
  obtain ⟨w, hw, hplace⟩ := (Option.any_eq_true _ _).mp hgoverns
  obtain ⟨hreceiver, hkey⟩ : w.receiver = member.resource.id ∧ w.key = key := by simpa using hplace
  rw [Diagram.id_workingCopy, Diagram.typeId_workingCopy]
  exact ⟨w, hw, hreceiver, hkey, Diagram.isBlank_injection?_iff hw,
    Diagram.property?_workingCopy_of_governed hlast hw⟩

/-- A site has a name and no block. -/
def siteType : ResourceType where
  typeId := "plant/site"
  provider := "plant"
  terraformType := none

/-- Pumps stand in the north unless they are connected to a site. -/
def siteCatalog : Catalog where
  types := [siteType, { pumpType with schema :=
    [{ key := "site", label := "Site", kind := .string, default := some (.string "north") }] }].foldl
      Registry.register .empty
  rules := [{ endpoints := ⟨"plant/site", "pumps", "plant/pump", "site-in"⟩
              reference := some ⟨.target, "site", none⟩ }]

def siteEdge (site pump : String) : Edge := ⟨"stands", site, "pumps", pump, "site-in"⟩

/-- Two pumps, one at a site without a name. -/
def siteDiagram : Diagram where
  nodes :=
    [{ id := "nameless", typeId := "plant/site", name := "" },
     { id := "harbour", typeId := "plant/site", name := "harbour" },
     { id := "a", typeId := "plant/pump", name := "main" },
     { id := "b", typeId := "plant/pump", name := "main" }]
  edges := [siteEdge "nameless" "a", siteEdge "harbour" "b"]

theorem compile_upholds_connections_sites : siteDiagram.check = .ok () ∧
    ∃ a ∈ siteDiagram.working siteCatalog, ∃ b ∈ siteDiagram.working siteCatalog,
      a.resource.id = "a" ∧ a.resource.property? "site" = some (.string "north") ∧
      b.resource.id = "b" ∧ b.resource.property? "site" = some (.string "harbour") := by
  have hcheck : siteDiagram.check = .ok () := by decide
  have hnameless : siteDiagram.injection? siteCatalog (siteEdge "nameless" "a") =
      some ⟨"a", "site", .string ""⟩ := rfl
  have hharbour : siteDiagram.injection? siteCatalog (siteEdge "harbour" "b") =
      some ⟨"b", "site", .string "harbour"⟩ := rfl
  obtain ⟨-, hgoverned⟩ := compile_upholds_connections siteDiagram siteCatalog hcheck
  have ha : (siteDiagram.working siteCatalog)[2] ∈ siteDiagram.working siteCatalog :=
    List.getElem_mem _
  have hb : (siteDiagram.working siteCatalog)[3] ∈ siteDiagram.working siteCatalog :=
    List.getElem_mem _
  obtain ⟨w, hw, _, _, _, hvalue⟩ := hgoverned _ ha "site" (siteEdge "nameless" "a") rfl
  obtain ⟨v, hv, _, _, _, hother⟩ := hgoverned _ hb "site" (siteEdge "harbour" "b") rfl
  rw [hnameless] at hw
  rw [hharbour] at hv
  cases hw
  cases hv
  exact ⟨hcheck, _, ha, _, hb, rfl, hvalue, rfl, hother⟩

/-- The pump at the nameless site gets the default in place of what the connection has written. -/
theorem default_in_place_of_connection : siteDiagram.check = .ok () ∧
    ∃ m ∈ siteDiagram.working siteCatalog, ∃ edge w,
      (siteDiagram.governing siteCatalog siteDiagram.edges m.resource.id "site").getLast? =
        some edge ∧
      siteDiagram.injection? siteCatalog edge = some w ∧
      m.resource.property? "site" ≠ some w.value :=
  ⟨by decide, (siteDiagram.working siteCatalog)[2], List.getElem_mem _, siteEdge "nameless" "a",
    ⟨"a", "site", .string ""⟩, rfl, rfl, by decide⟩

end Groundplan
