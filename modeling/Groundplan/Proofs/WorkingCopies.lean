import Groundplan.Compile.Basic
import Groundplan.Proofs.Connecting

/-!
# Working copies

What the generators get to see of a node: its identity, and the node itself with what its edges have
written and with the defaults of its type. Only properties ever change, and a property that is set
keeps its value when defaults are filled in.
-/

namespace Groundplan

/-- What an entry of a schema has to offer for an unset property. -/
def PropertySchema.fallback? (s : PropertySchema) (key : String) : Option Property :=
  if s.key = key then s.default.filter (!·.isBlank) else none

theorem PropertySchema.present?_fill (s : PropertySchema) (r : Resource) (key : String) :
    (s.fill r).1.present? key = (r.present? key).or (s.fallback? key) := by
  unfold fill fallback?
  by_cases hkey : s.key = key
  · rw [if_pos hkey]
    subst hkey
    cases hpresent : r.present? s.key with
    | some value =>
      rw [Option.some_or]
      exact hpresent
    | none =>
      cases hdefault : s.default with
      | none => exact hpresent
      | some value =>
        rw [Option.none_or]
        show ((r.setProperty s.key value).property? s.key).filter _ = _
        rw [Resource.property?_setProperty_self]
  · rw [if_neg hkey, Option.or_none]
    split
    · rfl
    · rename_i value _ _
      show ((r.setProperty s.key value).property? key).filter _ = _
      rw [Resource.property?_setProperty_of_ne r value (Ne.symm hkey)]
      rfl
    · rfl

theorem PropertySchema.property?_fill {s : PropertySchema} {r : Resource} {key : String}
    {value : Property} (h : (s.fill r).1.property? key = some value) :
    r.property? key = some value ∨ s.key = key ∧ s.default = some value := by
  unfold PropertySchema.fill at h
  split at h
  · exact .inl h
  · rename_i default _ hdefault
    by_cases heq : key = s.key
    · rw [heq, Resource.property?_setProperty_self] at h
      exact .inr ⟨heq.symm, hdefault.trans h⟩
    · rw [Resource.property?_setProperty_of_ne r default heq] at h
      exact .inl h
  · exact .inl h

/-- A property that is set keeps its value; another one takes the first default that is not blank. -/
theorem present?_fillDefaults (schema : List PropertySchema) (r : Resource) (key : String) :
    (fillDefaults schema r).1.present? key =
      (r.present? key).or (schema.findSome? (·.fallback? key)) := by
  induction schema generalizing r with
  | nil => exact Option.or_none.symm
  | cons s schema ih =>
    show (fillDefaults schema (s.fill r).1).1.present? key = _
    rw [ih, s.present?_fill, Option.or_assoc, List.findSome?_cons]
    cases s.fallback? key <;> rfl

theorem property?_fillDefaults (schema : List PropertySchema) {r : Resource} {key : String}
    {value : Property} (h : (fillDefaults schema r).1.property? key = some value) :
    r.property? key = some value ∨ ∃ s ∈ schema, s.key = key ∧ s.default = some value := by
  induction schema generalizing r with
  | nil => exact .inl h
  | cons s schema ih =>
    rcases ih h with h | ⟨other, hother, hkey⟩
    · rcases PropertySchema.property?_fill h with h | hs
      · exact .inl h
      · exact .inr ⟨s, List.mem_cons_self, hs⟩
    · exact .inr ⟨other, List.mem_cons_of_mem _ hother, hkey⟩

theorem isSome_present?_fillDefaults {schema : List PropertySchema} (r : Resource)
    {s : PropertySchema} (hs : s ∈ schema) {value : Property} (hdefault : s.default = some value)
    (hset : value.isBlank = false) : ((fillDefaults schema r).1.present? s.key).isSome := by
  have hfallback : s.fallback? s.key = some value := by
    rw [PropertySchema.fallback?, if_pos rfl, hdefault, Option.filter_some, if_pos (by simp [hset])]
  have hfound : (schema.findSome? (·.fallback? s.key)).isSome :=
    List.findSome?_isSome_iff.mpr ⟨s, hs, Option.isSome_of_eq_some hfallback⟩
  rw [present?_fillDefaults, Option.isSome_or, hfound, Bool.or_true]

theorem PropertySchema.fill_eq (s : PropertySchema) (r : Resource) :
    ∃ properties, (s.fill r).1 = { r with properties } := by
  unfold PropertySchema.fill
  split
  · exact ⟨r.properties, rfl⟩
  · rename_i default _ _
    exact ⟨r.properties.insert s.key default, rfl⟩
  · exact ⟨r.properties, rfl⟩

theorem fillDefaults_eq (schema : List PropertySchema) (r : Resource) :
    ∃ properties, (fillDefaults schema r).1 = { r with properties } := by
  induction schema generalizing r with
  | nil => exact ⟨r.properties, rfl⟩
  | cons s schema ih =>
    obtain ⟨first, hfirst⟩ := s.fill_eq r
    obtain ⟨rest, hrest⟩ := ih (s.fill r).1
    exact ⟨rest, by rw [fillDefaults, hrest, hfirst]⟩

namespace Member

@[simp] theorem bare_withDefaults (types : Registry) (member : Member) :
    (member.withDefaults types).1.bare = member.bare := by
  unfold withDefaults
  split
  · rfl
  · rename_i type _
    obtain ⟨properties, h⟩ := fillDefaults_eq type.schema member.resource
    simp [bare, h]

theorem present?_withDefaults (types : Registry) {member : Member} {key : String}
    {value : Property} (h : member.resource.present? key = some value) :
    (member.withDefaults types).1.resource.present? key = some value := by
  unfold withDefaults
  split
  · exact h
  · rw [present?_fillDefaults, h, Option.some_or]

theorem isSome_present?_withDefaults {types : Registry} (member : Member) {type : ResourceType}
    (htype : types.get? member.resource.typeId = some type) {s : PropertySchema}
    (hs : s ∈ type.schema) {value : Property} (hdefault : s.default = some value)
    (hset : value.isBlank = false) :
    ((member.withDefaults types).1.resource.present? s.key).isSome := by
  unfold withDefaults
  rw [htype]
  exact isSome_present?_fillDefaults member.resource hs hdefault hset

theorem property?_withDefaults (types : Registry) {member : Member} {key : String}
    {value : Property} (h : (member.withDefaults types).1.resource.property? key = some value) :
    member.resource.property? key = some value ∨
      ∃ type, types.get? member.resource.typeId = some type ∧
        ∃ s ∈ type.schema, s.key = key ∧ s.default = some value := by
  unfold withDefaults at h
  split at h
  · exact .inl h
  · rename_i type htype
    exact (property?_fillDefaults _ h).imp id fun hs => ⟨type, htype, hs⟩

end Member

namespace Diagram

variable (d : Diagram) (catalog : Catalog)

/-- What the edges of a diagram write, in order. -/
def writings : List Writing :=
  d.edges.filterMap (·.writing? catalog.rules (d.members catalog.types))

/-- The working copy of a member of a diagram. -/
def workingCopy (member : Member) : Member :=
  (((d.writings catalog).foldl Member.receive member).withDefaults catalog.types).1

@[simp] theorem bare_workingCopy (member : Member) :
    (d.workingCopy catalog member).bare = member.bare := by
  simp [workingCopy]

@[simp] theorem id_workingCopy (member : Member) :
    (d.workingCopy catalog member).resource.id = member.resource.id :=
  Member.id_eq_of_bare (d.bare_workingCopy catalog member)

@[simp] theorem typeId_workingCopy (member : Member) :
    (d.workingCopy catalog member).resource.typeId = member.resource.typeId :=
  Member.typeId_eq_of_bare (d.bare_workingCopy catalog member)

@[simp] theorem identity_workingCopy (member : Member) :
    (d.workingCopy catalog member).identity = member.identity :=
  Member.identity_eq_of_bare (d.bare_workingCopy catalog member)

theorem map_id_members : (d.members catalog.types).map (·.resource.id) = d.nodes.map (·.id) := by
  have h := congrArg (List.map (·.id)) (map_resource_assignIdentities catalog.types d.naming []
    d.nodes)
  rwa [List.map_map] at h

variable {d}

theorem mem_nodes_of_mem_members {types : Registry} {member : Member}
    (h : member ∈ d.members types) : member.resource ∈ d.nodes := by
  rw [← map_resource_assignIdentities types d.naming [] d.nodes]
  exact List.mem_map_of_mem h

theorem check_eq_ok_iff : d.check = .ok () ↔
    (d.nodes.map (·.id)).Nodup ∧ ∀ edge ∈ d.edges,
      edge.source ∈ d.nodes.map (·.id) ∧ edge.target ∈ d.nodes.map (·.id) := by
  have hends : ∀ edge : Edge, danglingEnd (d.nodes.map (·.id)) edge = none ↔
      edge.source ∈ d.nodes.map (·.id) ∧ edge.target ∈ d.nodes.map (·.id) := by
    intro edge
    simp [danglingEnd]
  unfold check
  dsimp only
  cases h : firstRepeated [] (d.nodes.map (·.id)) with
  | some id =>
    have hn : ¬(d.nodes.map (·.id)).Nodup := by
      intro hn
      rw [firstRepeated_eq_none_iff.mpr ⟨hn, by simp⟩] at h
      cases h
    simp [hn]
  | none =>
    have hn := (firstRepeated_eq_none_iff.mp h).1
    cases hedges : d.edges.findSome? fun edge =>
        (danglingEnd (d.nodes.map (·.id)) edge).map (edge.id, ·) with
    | none =>
      simp only [true_iff]
      refine ⟨hn, fun edge hedge => (hends edge).mp ?_⟩
      simpa using List.findSome?_eq_none_iff.mp hedges edge hedge
    | some found =>
      simp only [reduceCtorEq, false_iff, not_and]
      intro _ hall
      obtain ⟨edge, hedge, hfound⟩ := List.exists_of_findSome?_eq_some hedges
      rw [(hends edge).mpr (hall edge hedge)] at hfound
      cases hfound

theorem nodup_id_members (h : d.check = .ok ()) :
    ((d.members catalog.types).map (·.resource.id)).Nodup := by
  rw [map_id_members]
  exact (check_eq_ok_iff.mp h).1

theorem working_eq (h : d.check = .ok ()) :
    d.working catalog = (d.members catalog.types).map (d.workingCopy catalog) := by
  have hconnected : (d.connected catalog).members = (d.members catalog.types).map fun member =>
      (d.writings catalog).foldl Member.receive member :=
    members_connectAll catalog.rules (nodup_id_members catalog h) d.edges
  rw [working, Connecting.filled, hconnected, List.map_map, List.map_map]
  rfl

theorem map_id_working (h : d.check = .ok ()) :
    (d.working catalog).map (·.resource.id) = d.nodes.map (·.id) := by
  rw [working_eq catalog h, List.map_map, ← d.map_id_members catalog]
  exact List.map_congr_left fun member _ => d.id_workingCopy catalog member

theorem nodup_id_working (h : d.check = .ok ()) :
    ((d.working catalog).map (·.resource.id)).Nodup := by
  rw [map_id_working catalog h]
  exact (check_eq_ok_iff.mp h).1

theorem isSome_present?_working {m : Member} (hm : m ∈ d.working catalog) {type : ResourceType}
    (htype : catalog.types.get? m.resource.typeId = some type) {s : PropertySchema}
    (hs : s ∈ type.schema) {value : Property} (hdefault : s.default = some value)
    (hset : value.isBlank = false) : (m.resource.present? s.key).isSome := by
  rw [working, Connecting.filled, List.map_map] at hm
  obtain ⟨member, _, rfl⟩ := List.mem_map.mp hm
  rw [Function.comp_apply, Member.typeId_eq_of_bare (Member.bare_withDefaults _ member)] at htype
  exact Member.isSome_present?_withDefaults member htype hs hdefault hset

/-- A value that is not blank and was written last is what the generators see. -/
theorem present?_workingCopy {member : Member} {key : String} {w : Writing}
    (hlast : lastWriting? (d.writings catalog) member.resource.id key = some w)
    (hset : w.value.isBlank = false) :
    (d.workingCopy catalog member).resource.present? key = some w.value := by
  apply Member.present?_withDefaults
  rw [Resource.present?, Member.property?_foldl_receive, hlast]
  simp [hset]

/-- A property that the generators see was written by an edge, stands in the node, or is a default
of its type. -/
theorem property?_workingCopy {member : Member} {key : String} {value : Property}
    (h : (d.workingCopy catalog member).resource.property? key = some value) :
    (∃ w ∈ d.writings catalog, w.receiver = member.resource.id ∧ w.key = key ∧ w.value = value) ∨
      member.resource.property? key = some value ∨
        ∃ type, catalog.types.get? member.resource.typeId = some type ∧
          ∃ s ∈ type.schema, s.key = key ∧ s.default = some value := by
  rcases Member.property?_withDefaults catalog.types h with h | h
  · rw [Member.property?_foldl_receive] at h
    cases hlast : lastWriting? (d.writings catalog) member.resource.id key with
    | none =>
      rw [hlast] at h
      exact .inr (.inl h)
    | some w =>
      rw [hlast] at h
      have hw : w.receiver = member.resource.id ∧ w.key = key := by
        simpa using List.find?_some hlast
      exact .inl ⟨w, List.mem_reverse.mp (List.mem_of_find?_eq_some hlast), hw.1, hw.2,
        Option.some.inj h⟩
  · rw [Member.typeId_eq_of_bare (Member.bare_foldl_receive _ member)] at h
    exact .inr (.inr h)

end Diagram

end Groundplan
