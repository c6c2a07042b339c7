import Groundplan.Proofs.Overwriting

/-!
# The course of connecting

What is found about the edges of a diagram, edge by edge. An edge contributes what its rules give
reason to report, and the loss of a value that it replaces. Of the edges before it only what they have
written matters, so two courses can be compared without a look at the states in between.
-/

namespace Groundplan

/-- Values of properties by id and key. -/
abbrev Values := String → String → Option Property

/-- What a property holds after some writings. -/
def Values.after (start : Values) (writings : List Writing) : Values := fun id key =>
  ((lastWriting? writings id key).map (·.value)).or (start id key)

/-- The values of the properties of some members. -/
def Member.values (members : List Member) : Values := fun id key =>
  (find? members id).bind (·.resource.property? key)

/-- The report that is due of a writing that comes after others: that of the value it replaces, if
that is set and differs. -/
def Writing.loss? (start : Values) (before : List Writing) (edge : Edge) (w : Writing) :
    Option Finding := do
  let previous ← start.after before w.receiver w.key
  if previous.isBlank ∨ previous = w.value then none
  else some (w.report edge previous (lastWriting? before w.receiver w.key).isSome)

/-- The findings about edges that come one after the other when some writings have been carried out.
`resolution` says what the rules for an edge give reason to report, and `inject?` what it writes. -/
def courseFindings (start : Values) (resolution : Edge → List Finding)
    (inject? : Edge → Option Writing) (before : List Writing) : List Edge → List Finding
  | [] => []
  | edge :: after =>
    resolution edge ++ ((inject? edge).bind (Writing.loss? start before edge)).toList ++
      courseFindings start resolution inject? (before ++ (inject? edge).toList) after

theorem Edge.resolutionFindings_map {f : Member → Member}
    (hf : ∀ member, (f member).bare = member.bare) (rules : List Rule) (members : List Member)
    (edge : Edge) :
    edge.resolutionFindings rules (members.map f) = edge.resolutionFindings rules members := by
  unfold Edge.resolutionFindings
  rw [Member.find?_map hf, Member.find?_map hf]
  cases Member.find? members edge.source with
  | none => rfl
  | some source =>
    cases Member.find? members edge.target with
    | none => rfl
    | some target =>
      simp only [Option.map_some, Edge.endpoints, Member.typeId_eq_of_bare (hf _)]

theorem isSome_lastWriting? (writings : List Writing) (id key : String) :
    (lastWriting? writings id key).isSome =
      ((writings.map fun w => (w.receiver, w.key)).reverse).contains (id, key) := by
  rw [lastWriting?, List.isSome_find?, Bool.eq_iff_iff, List.any_eq_true, List.contains_iff_mem]
  simp

namespace Connecting

/-- Whether a state is one in which some writings have been carried out on the given members. -/
structure Written (members : List Member) (writings : List Writing) (state : Connecting) : Prop where
  members_eq : state.members = members.map fun member => writings.foldl Member.receive member
  governed_eq : state.governed = (writings.map fun w => (w.receiver, w.key)).reverse

namespace Written

variable {rules : List Rule} {members : List Member} {writings : List Writing} {state : Connecting}

theorem start (members : List Member) : Written members [] { members } where
  members_eq := by simp
  governed_eq := rfl

variable (h : Written members writings state)

include h

theorem nodup_id (hn : (members.map (·.resource.id)).Nodup) :
    (state.members.map (·.resource.id)).Nodup := by
  have hids : state.members.map (·.resource.id) = members.map (·.resource.id) := by
    rw [h.members_eq, List.map_map]
    exact List.map_congr_left fun member _ =>
      Member.id_eq_of_bare (Member.bare_foldl_receive writings member)
  exact hids ▸ hn

theorem writing?_eq (edge : Edge) :
    edge.writing? rules state.members = edge.writing? rules members := by
  rw [h.members_eq, Edge.writing?_map (Member.bare_foldl_receive writings)]

theorem connect (hn : (members.map (·.resource.id)).Nodup) (edge : Edge) :
    Written members (writings ++ (edge.writing? rules members).toList)
      (state.connect rules edge) where
  members_eq := by
    rw [members_connect rules (h.nodup_id hn), h.writing?_eq, h.members_eq, List.map_map]
    exact List.map_congr_left fun member _ => List.foldl_append.symm
  governed_eq := by
    rw [governed_connect rules (h.nodup_id hn), h.writing?_eq, h.governed_eq, List.map_append,
      List.reverse_append]
    cases edge.writing? rules members <;> rfl

/-- What a member holds is what was written last, or what it held at the start. -/
theorem value_eq {member : Member} (hm : member ∈ members) (key : String) :
    (Member.find? state.members member.resource.id).bind (·.resource.property? key) =
      (Member.values members).after writings member.resource.id key := by
  obtain ⟨found, hfound⟩ := Member.exists_find?_of_mem (List.mem_map_of_mem hm)
  have hid : found.resource.id = member.resource.id := by simpa using List.find?_some hfound
  rw [h.members_eq, Member.find?_map (Member.bare_foldl_receive writings), Values.after,
    Member.values, hfound, Option.map_some, Option.bind_some, Option.bind_some,
    Member.property?_foldl_receive, hid]

theorem report?_eq {edge : Edge} {w : Writing} (hw : edge.writing? rules members = some w) :
    state.report? edge w = w.loss? (Member.values members) writings edge := by
  obtain ⟨receiver, hmem, hid⟩ := Edge.exists_receiver hw
  rw [report?, Writing.loss?, ← hid, h.value_eq hmem, h.governed_eq, isSome_lastWriting?]

theorem findings_foldl_connect (hn : (members.map (·.resource.id)).Nodup) (edges : List Edge) :
    (edges.foldl (Connecting.connect rules) state).findings =
      state.findings ++ courseFindings (Member.values members)
        (·.resolutionFindings rules members) (·.writing? rules members) writings edges := by
  induction edges generalizing writings state with
  | nil => simp [courseFindings]
  | cons edge edges ih =>
    have hresolution : edge.resolutionFindings rules state.members =
        edge.resolutionFindings rules members := by
      rw [h.members_eq, Edge.resolutionFindings_map (Member.bare_foldl_receive writings)]
    have hloss : (edge.writing? rules members).bind (state.report? edge) =
        (edge.writing? rules members).bind
          (Writing.loss? (Member.values members) writings edge) :=
      Option.bind_congr fun w hw => h.report?_eq hw
    rw [List.foldl_cons, ih (h.connect hn edge), findings_connect rules (h.nodup_id hn), hresolution,
      h.writing?_eq, hloss, courseFindings]
    simp only [List.append_assoc]

end Written

end Connecting

/-- All that is found while the members of a diagram are connected. -/
theorem findings_connectAll (rules : List Rule) {members : List Member}
    (hn : (members.map (·.resource.id)).Nodup) (edges : List Edge) :
    (connectAll rules members edges).findings =
      courseFindings (Member.values members) (·.resolutionFindings rules members)
        (·.writing? rules members) [] edges :=
  (Connecting.Written.start members).findings_foldl_connect hn edges

end Groundplan
