import Groundplan.Proofs.Dictionaries
import Groundplan.Stored.Diagram

/-!
# Reading back what was stored

A diagram is given back by reading its stored form. The reader of every part undoes the writer of
that part, and a record is read field by field from what its fields were written as, with defaults
for those that were left out. For property values it is also said which JSON values stand for one.
-/

namespace Groundplan

namespace Json

theorem toMarkupMembers_eq_map (members : List (String × Json)) :
    toMarkupMembers members =
      members.map fun member => (.scalar (.text member.1) none, member.2.toMarkup) := by
  induction members with
  | nil => rfl
  | cons member members ih => simp [toMarkupMembers, ih]

mutual

theorem usable_toMarkup : ∀ value : Json, value.toMarkup.usable = true
  | .null | .bool _ | .number _ | .string _ => rfl
  | .array items => usable_toMarkupItems items
  | .object members => usable_toMarkupMembers members

theorem usable_toMarkupItems : ∀ items : List Json, Markup.usableItems (toMarkupItems items) = true
  | [] => rfl
  | item :: items => by
    simp [toMarkupItems, Markup.usableItems, usable_toMarkup item, usable_toMarkupItems items]

theorem usable_toMarkupMembers :
    ∀ members : List (String × Json), Markup.usableFields (toMarkupMembers members) = true
  | [] => rfl
  | (_, value) :: members => by
    simp [toMarkupMembers, Markup.usableFields, Markup.usable, usable_toMarkup value,
      usable_toMarkupMembers members]

end

theorem eq_string_of_toMarkup {value : Json} {s : String} {source : Option String}
    (h : value.toMarkup = .scalar (.text s) source) : value = .string s := by
  cases value <;> simp_all [toMarkup]

mutual

/-- The property value for which a JSON value stands. An object stands for a reference if it names
`ref` once, with a string; what else it names does not matter. -/
inductive Denotes : Json → Property → Prop
  | bool (b : Bool) : Denotes (.bool b) (.bool b)
  | number (n : Number) : Denotes (.number n) (.number n)
  | string (s : String) : Denotes (.string s) (.string s)
  | array {items : List Json} {values : List Property} :
    DenoteAll items values → Denotes (.array items) (.list values)
  | object {members : List (String × Json)} {expression : String} :
    (members.filter (·.1 == "ref")) = [("ref", .string expression)] →
      Denotes (.object members) (.reference expression)

/-- The property values for which the items of an array stand, one by one. -/
inductive DenoteAll : List Json → List Property → Prop
  | nil : DenoteAll [] []
  | cons {item : Json} {value : Property} {items : List Json} {values : List Property} :
    Denotes item value → DenoteAll items values → DenoteAll (item :: items) (value :: values)

end

/-- An object whose names are distinct stands for a reference just if `ref` is the name of a string
in it. -/
theorem denotes_object_iff {members : List (String × Json)} (hn : (members.map (·.1)).Nodup)
    {value : Property} : Denotes (.object members) value ↔
      ∃ expression, ("ref", .string expression) ∈ members ∧ value = .reference expression := by
  have hfilter := filter_eq_toList_find?_of_nodup (fun member : String × Json => member.1) hn "ref"
  constructor
  · intro h
    cases h with
    | object hnamed =>
      have hmem := List.mem_of_mem_filter (hnamed ▸ List.mem_singleton_self _)
      exact ⟨_, hmem, rfl⟩
  · rintro ⟨expression, hmem, rfl⟩
    have hfound := (find?_eq_some_iff_of_nodup (fun member : String × Json => member.1) hn).mpr
      ⟨hmem, rfl⟩
    exact .object (by rw [hfilter, hfound]; rfl)

end Json

namespace Property

theorem referenceOf?_toMarkupMembers (members : List (String × Json)) (value : Property) :
    referenceOf? (Json.toMarkupMembers members) = some value ↔
      (Json.object members).Denotes value := by
  have hfields : (Json.toMarkupMembers members).all (fun field => namesField field.1) = true := by
    simp [Json.toMarkupMembers_eq_map, namesField]
  have hnamed : (Json.toMarkupMembers members).filter (fun field => namesReference field.1) =
      (members.filter (·.1 == "ref")).map fun member =>
        (.scalar (.text member.1) none, member.2.toMarkup) := by
    rw [Json.toMarkupMembers_eq_map, List.filter_map]
    rfl
  rw [referenceOf?, if_pos hfields, hnamed]
  constructor
  · intro h
    split at h
    · rename_i key expression source heq
      cases h
      obtain ⟨member, hmember, hpair⟩ := List.map_eq_singleton_iff.mp heq
      obtain ⟨hkey, hvalue⟩ := Prod.mk.inj hpair
      have hname : member.1 = "ref" := by
        have hmem := List.of_mem_filter (hmember ▸ List.mem_singleton_self member)
        simpa using hmem
      obtain ⟨name, stored⟩ := member
      obtain rfl : name = "ref" := hname
      obtain rfl := Json.eq_string_of_toMarkup hvalue
      exact .object hmember
    · cases h
  · intro h
    cases h with
    | object hnamed =>
      rw [hnamed]
      rfl

mutual

theorem ofMarkup?_eq_some_iff : ∀ (stored : Json) (value : Property),
    ofMarkup? stored.toMarkup = some value ↔ stored.Denotes value
  | .null, value => ⟨nofun, nofun⟩
  | .bool b, value => by
    constructor
    · rintro ⟨⟩
      exact .bool b
    · rintro ⟨⟩
      rfl
  | .number n, value => by
    constructor
    · rintro ⟨⟩
      exact .number n
    · rintro ⟨⟩
      rfl
  | .string s, value => by
    constructor
    · rintro ⟨⟩
      exact .string s
    · rintro ⟨⟩
      rfl
  | .array items, value => by
    rw [Json.toMarkup, ofMarkup?, Option.map_eq_some_iff]
    constructor
    · rintro ⟨values, hvalues, rfl⟩
      exact .array ((ofMarkupItems?_eq_some_iff items values).mp hvalues)
    · intro h
      cases h with
      | array hvalues => exact ⟨_, (ofMarkupItems?_eq_some_iff items _).mpr hvalues, rfl⟩
  | .object members, value => referenceOf?_toMarkupMembers members value

theorem ofMarkupItems?_eq_some_iff : ∀ (items : List Json) (values : List Property),
    ofMarkupItems? (Json.toMarkupItems items) = some values ↔ Json.DenoteAll items values
  | [], values => by
    constructor
    · rintro ⟨⟩
      exact .nil
    · rintro ⟨⟩
      rfl
  | item :: items, values => by
    rw [Json.toMarkupItems, ofMarkupItems?]
    constructor
    · intro h
      split at h
      · rename_i value rest hvalue hrest
        cases h
        exact .cons ((ofMarkup?_eq_some_iff item value).mp hvalue)
          ((ofMarkupItems?_eq_some_iff items rest).mp hrest)
      · cases h
    · intro h
      cases h with
      | cons hvalue hrest =>
        rw [(ofMarkup?_eq_some_iff item _).mpr hvalue,
          (ofMarkupItems?_eq_some_iff items _).mpr hrest]

end

/-- A JSON value is read as the property value for which it stands, and refused if there is none. -/
theorem read_toMarkup (stored : Json) : read stored.toMarkup =
    match ofMarkup? stored.toMarkup with
    | some value => .ok value
    | none => .error .unfit :=
  if_pos stored.usable_toMarkup

theorem read_eq_ok_iff {stored : Json} {value : Property} :
    read stored.toMarkup = .ok value ↔ stored.Denotes value := by
  rw [read_toMarkup, ← ofMarkup?_eq_some_iff]
  cases ofMarkup? stored.toMarkup <;> simp

mutual

theorem denotes_toJson : ∀ value : Property, value.toJson.Denotes value
  | .bool b => .bool b
  | .number n => .number n
  | .string s => .string s
  | .list items => .array (denoteAll_toJsonItems items)
  | .reference _ => .object rfl

theorem denoteAll_toJsonItems : ∀ items : List Property, Json.DenoteAll (toJsonItems items) items
  | [] => .nil
  | item :: items => .cons (denotes_toJson item) (denoteAll_toJsonItems items)

end

end Property

/-- Whether reading what is written gives it back. -/
def Restores {α : Type} (read : Reader α) (write : α → Json) : Prop :=
  ∀ a, read (write a).toMarkup = .ok a

section Readers

variable {α σ : Type} {read : Reader α} {write : α → Json}

theorem restores_text : Restores Markup.text .string := fun _ => rfl

theorem restores_flag : Restores Markup.flag .bool := fun _ => rfl

theorem restores_property : Restores Property.read Property.toJson := fun value =>
  Property.read_eq_ok_iff.mpr value.denotes_toJson

theorem restores_mode : Restores Mode.read fun mode => .string mode.name := by
  intro mode
  cases mode <;> rfl

theorem Restores.items (h : Restores read write) :
    Restores (Markup.items read) fun items => .array (items.map write) := by
  intro items
  show (Json.toMarkupItems (items.map write)).mapM read = .ok items
  induction items with
  | nil => rfl
  | cons item items ih =>
    rw [List.map_cons, Json.toMarkupItems, List.mapM_cons, h item, ih]
    rfl

/-- Entries are inserted one after the other, and those of a dictionary all stay. -/
theorem Restores.dictionary (h : Restores read write) :
    Restores (Markup.dictionary read) (Dictionary.toJson write) := by
  intro d
  have hfold : ∀ (entries : List (String × α)) (start : Dictionary α),
      (Json.toMarkupMembers (entries.map fun entry => (entry.1, write entry.2))).foldlM
        (fun d entry => do return d.insert (← entry.1.text) (← read entry.2)) start =
        (.ok (entries.foldl (fun d entry => d.insert entry.1 entry.2) start) :
          Except Misfit (Dictionary α)) := by
    intro entries
    induction entries with
    | nil => intro start; rfl
    | cons entry entries ih =>
      intro start
      rw [List.map_cons, Json.toMarkupMembers, List.foldlM_cons, h entry.2]
      exact ih (start.insert entry.1 entry.2)
  show (Json.toMarkupMembers _).foldlM _ Dictionary.empty = _
  rw [hfold]
  have hentries : Dictionary.ofList d.entries = d := by
    apply Dictionary.ext_get?
    intro key
    apply Option.ext
    intro value
    rw [Dictionary.get?_ofList_eq_some_iff d.nodup_keys, Dictionary.mem_entries_iff]
  exact congrArg _ hentries

/-- What a field of a record is written as, if it is, and what reading that does to the record. -/
structure Part (σ : Type) where
  stored? : Option Json
  set : σ → σ

/-- Whether a field does to a record what its part says, when it is read and when it is left out. -/
def Field.Restores (field : Field σ) (part : Part σ) : Prop :=
  match part.stored? with
  | some stored => ∀ record, field.read stored.toMarkup record = .ok (part.set record)
  | none => field.mandatory = false ∧ part.set = id

/-- The parts of a record under the names of its fields. -/
def storedParts (fields : List (Field σ)) (parts : List (Part σ)) : List (String × Json) :=
  (fields.zip parts).flatMap fun entry => Json.optional entry.1.name entry.2.stored?

theorem storedParts_cons (field : Field σ) (fields : List (Field σ)) (part : Part σ)
    (parts : List (Part σ)) : storedParts (field :: fields) (part :: parts) =
      Json.optional field.name part.stored? ++ storedParts fields parts := rfl

theorem readFields_cons {known : List (Field σ)} {field : Field σ}
    (hfind : known.find? (·.name == field.name) = some field) {seen : List String}
    (hseen : field.name ∉ seen) {stored : Json} {record next : σ}
    (hread : field.read stored.toMarkup record = .ok next) (rest : List (String × Json)) :
    Markup.readFields known seen record (Json.toMarkupMembers ((field.name, stored) :: rest)) =
      Markup.readFields known (field.name :: seen) next (Json.toMarkupMembers rest) := by
  rw [Json.toMarkupMembers, Markup.readFields]
  simp [Markup.text, bind, Except.bind, hfind, hseen, hread]

/-- A record is read from the parts of its fields: those that were written are put into it, and
the others leave it as it is. -/
theorem readFields_storedParts {known : List (Field σ)} (hn : (known.map (·.name)).Nodup)
    {fields : List (Field σ)} {parts : List (Part σ)}
    (hparts : List.Forall₂ Field.Restores fields parts) (hknown : fields ⊆ known)
    (hfields : (fields.map (·.name)).Nodup) {seen : List String}
    (hseen : ∀ field ∈ fields, field.name ∉ seen)
    (hmandatory : ∀ field ∈ known, field.mandatory = true → field ∈ fields ∨ field.name ∈ seen)
    (record : σ) :
    Markup.readFields known seen record (Json.toMarkupMembers (storedParts fields parts)) =
      .ok (parts.foldl (fun record part => part.set record) record) := by
  induction hparts generalizing seen record with
  | nil =>
    have hdone : (known.any fun field => field.mandatory && !seen.contains field.name) = false := by
      rw [List.any_eq_false]
      intro field hfield
      by_cases h : field.mandatory = true
      · simpa [h] using hmandatory field hfield h
      · simp [h]
    show Markup.readFields known seen record [] = _
    rw [Markup.readFields, hdone]
    rfl
  | @cons field part fields parts hpart _ ih =>
    obtain ⟨hfield, hrest⟩ := List.cons_subset.mp hknown
    obtain ⟨hname, hnames⟩ := List.nodup_cons.mp hfields
    have hunseen := hseen field List.mem_cons_self
    have hothers : ∀ other ∈ fields, other.name ∉ seen := fun other hother =>
      hseen other (List.mem_cons_of_mem _ hother)
    rw [storedParts_cons, List.foldl_cons]
    cases hstored : part.stored? with
    | none =>
      simp only [Field.Restores, hstored] at hpart
      obtain ⟨hoptional, hset⟩ := hpart
      rw [hset]
      refine ih hrest hnames hothers (fun other hother h => ?_) record
      rcases hmandatory other hother h with hmem | hmem
      · rcases List.mem_cons.mp hmem with rfl | hmem
        · rw [hoptional] at h
          cases h
        · exact .inl hmem
      · exact .inr hmem
    | some stored =>
      simp only [Field.Restores, hstored] at hpart
      have hfind : known.find? (·.name == field.name) = some field :=
        (find?_eq_some_iff_of_nodup _ hn).mpr ⟨hfield, rfl⟩
      rw [Json.optional, List.singleton_append, readFields_cons hfind hunseen (hpart record)]
      refine ih hrest hnames (fun other hother hmem => ?_) (fun other hother h => ?_) _
      · rcases List.mem_cons.mp hmem with heq | hmem
        · exact hname (List.mem_map.mpr ⟨other, hother, heq⟩)
        · exact hothers other hother hmem
      · rcases hmandatory other hother h with hmem | hmem
        · rcases List.mem_cons.mp hmem with rfl | hmem
          · exact .inr List.mem_cons_self
          · exact .inl hmem
        · exact .inr (List.mem_cons_of_mem _ hmem)

theorem readRecord_storedParts {fields : List (Field σ)} (hn : (fields.map (·.name)).Nodup)
    {parts : List (Part σ)} (hparts : List.Forall₂ Field.Restores fields parts) (start : σ) :
    Markup.readRecord fields start (Json.object (storedParts fields parts)).toMarkup =
      .ok (parts.foldl (fun record part => part.set record) start) :=
  readFields_storedParts hn hparts (List.Subset.refl _) hn (fun _ _ => List.not_mem_nil)
    (fun _ hfield _ => .inl hfield) start

namespace Field

variable {name : String} {set : α → σ → σ}

theorem restores_required (h : Groundplan.Restores read write) (a : α) :
    (Field.required name read set).Restores ⟨some (write a), set a⟩ := by
  intro record
  show (do return set (← read (write a).toMarkup) record) = _
  rw [h a]
  rfl

theorem restores_optional (h : Groundplan.Restores read write) (a : α) :
    (Field.optional name read set).Restores ⟨some (write a), set a⟩ :=
  show (Field.required name read set).Restores _ from restores_required h a

theorem restores_optional_ite (h : Groundplan.Restores read write) (absent : Bool) (a : α) :
    (Field.optional name read set).Restores
      ⟨if absent then none else some (write a), if absent then id else set a⟩ := by
  cases absent with
  | true => exact ⟨rfl, rfl⟩
  | false => exact restores_optional h a

theorem restores_nullable {set : Option α → σ → σ} (h : Groundplan.Restores read write)
    (hnull : ∀ a source, (write a).toMarkup ≠ .scalar .null source) (a? : Option α) :
    (Field.optional name (Markup.nullable read) set).Restores
      ⟨a?.map write, a?.elim id fun a => set (some a)⟩ := by
  cases a? with
  | none => exact ⟨rfl, rfl⟩
  | some a =>
    intro record
    have hread : Markup.nullable read (write a).toMarkup = .ok (some a) := by
      rw [Markup.nullable.eq_def]
      split
      · rename_i source heq
        exact absurd heq (hnull a source)
      · rw [h a]
        rfl
    show (do return set (← Markup.nullable read (write a).toMarkup) record) = _
    rw [hread]
    rfl

end Field

end Readers

theorem restores_edge : Restores Edge.read Edge.toJson := by
  intro e
  have hparts : List.Forall₂ Field.Restores Edge.fields _ :=
    .cons (Field.restores_required restores_text e.id)
      (.cons (Field.restores_required restores_text e.source)
      (.cons (Field.restores_required restores_text e.sourceHandle)
      (.cons (Field.restores_required restores_text e.target)
      (.cons (Field.restores_required restores_text e.targetHandle) .nil))))
  exact readRecord_storedParts (by decide) hparts ⟨"", "", "", "", ""⟩

theorem restores_backend : Restores Backend.read Backend.toJson := by
  intro b
  have hparts : List.Forall₂ Field.Restores Backend.fields _ :=
    .cons (Field.restores_required restores_text b.type)
      (.cons (Field.restores_optional restores_text.dictionary b.config) .nil)
  exact readRecord_storedParts (by decide) hparts { type := "" }

theorem restores_resource : Restores Resource.read Resource.toJson := by
  intro r
  have hparts : List.Forall₂ Field.Restores Resource.fields _ :=
    .cons (Field.restores_required restores_text r.id)
      (.cons (Field.restores_required restores_text r.typeId)
      (.cons (Field.restores_required restores_text r.name)
      (.cons (Field.restores_optional restores_property.dictionary r.properties)
      (.cons (Field.restores_optional_ite restores_mode.dictionary r.modes.isEmpty r.modes) .nil))))
  have hread := readRecord_storedParts (by decide) hparts { id := "", typeId := "", name := "" }
  cases hmodes : r.modes.isEmpty with
  | true =>
    have hempty : r.modes = .empty := Dictionary.ext (List.isEmpty_iff.mp hmodes)
    rw [hmodes] at hread
    rw [Resource.toJson, hmodes]
    refine Eq.trans hread ?_
    cases r
    cases hempty
    rfl
  | false =>
    rw [hmodes] at hread
    rw [Resource.toJson, hmodes]
    exact hread

theorem restores_naming : Restores Naming.read Naming.toJson := by
  intro n
  have hparts : List.Forall₂ Field.Restores Naming.fields _ :=
    .cons (Field.restores_optional restores_flag n.enabled)
      (.cons (Field.restores_optional restores_text n.template)
      (.cons (Field.restores_nullable restores_text nofun n.env)
      (.cons (Field.restores_nullable restores_text nofun n.region)
      (.cons (Field.restores_nullable restores_text nofun n.org) .nil))))
  have hread := readRecord_storedParts (by decide) hparts {}
  obtain ⟨enabled, template, env, region, org⟩ := n
  cases env <;> cases region <;> cases org <;> exact hread

theorem restores_project : Restores Project.read Project.toJson := by
  intro p
  have hparts : List.Forall₂ Field.Restores Project.fields _ :=
    .cons (Field.restores_optional restores_property.dictionary.dictionary p.providerConfigs)
      (.cons (Field.restores_optional restores_text.dictionary p.commonTags)
      (.cons (Field.restores_optional restores_text p.terraformVersion)
      (.cons (Field.restores_nullable restores_backend nofun p.backend)
      (.cons (Field.restores_optional restores_text.dictionary p.variableValues) .nil))))
  have hread := readRecord_storedParts (by decide) hparts {}
  obtain ⟨configs, tags, version, backend, values⟩ := p
  cases backend <;> exact hread

theorem restores_diagram : Restores Diagram.read Diagram.toJson := by
  intro d
  have hparts : List.Forall₂ Field.Restores Diagram.fields _ :=
    .cons (Field.restores_optional restores_resource.items d.nodes)
      (.cons (Field.restores_optional restores_edge.items d.edges)
      (.cons (Field.restores_optional restores_naming d.naming)
      (.cons (Field.restores_optional restores_project d.project) .nil)))
  exact readRecord_storedParts (by decide) hparts {}

/-- Every diagram is given back by its stored form, and a JSON value is read as the property value for
which its kind makes it stand: nothing else is accepted, at any depth. -/
theorem stored_form_reads_back :
    (∀ d : Diagram, Diagram.read d.toJson.toMarkup = .ok d) ∧
    (∀ (stored : Json) (value : Property),
      Property.read stored.toMarkup = .ok value ↔ stored.Denotes value) ∧
    ∀ members : List (String × Json), (members.map (·.1)).Nodup → ∀ value : Property,
      (Json.object members).Denotes value ↔
        ∃ expression, ("ref", .string expression) ∈ members ∧ value = .reference expression :=
  ⟨restores_diagram, fun _ _ => Property.read_eq_ok_iff, fun _ hn _ => Json.denotes_object_iff hn⟩

/-- A node with lists within lists, references and both modes, in a project with a backend. -/
def variedDiagram : Diagram where
  nodes :=
    [{ id := "a", typeId := "plant/pump", name := "main"
       properties := (Dictionary.empty.insert "feed" (.reference "plant_pump.main.id")).insert "pipes"
         (.list [.list [], .list [.number (.integer 3), .reference "local.pipe"], .string ""])
       modes := (Dictionary.empty.insert "feed" .exposed).insert "pipes" .literal }]
  naming := { enabled := true, env := some "prod" }
  project :=
    { providerConfigs := Dictionary.empty.insert "plant" (Dictionary.empty.insert "site" (.bool true))
      backend := some { type := "local", config := Dictionary.empty.insert "path" "state" } }

theorem stored_form_reads_back_varied :
    Diagram.read variedDiagram.toJson.toMarkup = .ok variedDiagram ∧
    Property.read (Json.object [("note", .null), ("ref", .string "a.b.id")]).toMarkup =
      .ok (.reference "a.b.id") := by
  obtain ⟨hdiagram, hproperty, hobject⟩ := stored_form_reads_back
  refine ⟨hdiagram variedDiagram, (hproperty _ _).mpr ((hobject _ (by decide) _).mpr ?_)⟩
  exact ⟨"a.b.id", by simp, rfl⟩

end Groundplan
