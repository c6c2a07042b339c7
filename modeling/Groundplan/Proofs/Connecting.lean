import Groundplan.Compile.Connections
import Groundplan.Proofs.Collecting

/-!
# What connections write

The edges of a diagram amount to a list of writings, each of which depends on the ends of its edge
only through what never changes: their ids, types and identities. Connecting carries the writings
out in the order of the edges, so every property ends up with the last value written to it; a value
that gives way is reported.
-/

namespace Groundplan

/-- A value that an edge writes into a property of a resource. -/
structure Writing where
  receiver : String
  key : String
  value : Property

/-- What a rule's directive writes for an edge between two members. -/
def ReferenceDirective.writing (directive : ReferenceDirective) (source target : Member) : Writing :=
  match directive.side with
  | .source =>
    ⟨source.resource.id, directive.key, target.identity.reference directive.attributeOrId⟩
  | .target =>
    ⟨target.resource.id, directive.key, source.identity.reference directive.attributeOrId⟩

/-- What an edge writes, if its ends exist and its governing rule creates a reference. -/
def Edge.writing? (rules : List Rule) (members : List Member) (edge : Edge) : Option Writing :=
  match Member.find? members edge.source, Member.find? members edge.target with
  | some source, some target =>
    ((Rule.resolve rules (edge.endpoints source.resource target.resource)).rule?.bind
      (·.reference)).map (·.writing source target)
  | _, _ => none

/-- The writings of edges that govern a property of a resource, the last one alone. -/
def lastWriting? (writings : List Writing) (receiver key : String) : Option Writing :=
  writings.reverse.find? fun w => w.receiver == receiver && w.key == key

namespace Member

/-- The member after a writing, which changes nothing unless the member is its receiver. -/
def receive (member : Member) (w : Writing) : Member :=
  if member.resource.id == w.receiver then
    { member with resource := member.resource.setProperty w.key w.value }
  else member

/-- What no step of a compilation changes about a member: all but its properties. -/
def bare (member : Member) : Member :=
  { member with resource := { member.resource with properties := .empty } }

theorem id_eq_of_bare {a b : Member} (h : a.bare = b.bare) : a.resource.id = b.resource.id :=
  congrArg (·.resource.id) h

theorem typeId_eq_of_bare {a b : Member} (h : a.bare = b.bare) :
    a.resource.typeId = b.resource.typeId :=
  congrArg (·.resource.typeId) h

theorem identity_eq_of_bare {a b : Member} (h : a.bare = b.bare) : a.identity = b.identity :=
  congrArg (·.identity) h

@[simp] theorem bare_receive (member : Member) (w : Writing) :
    (member.receive w).bare = member.bare := by
  unfold receive
  split <;> rfl

@[simp] theorem bare_foldl_receive (writings : List Writing) (member : Member) :
    (writings.foldl receive member).bare = member.bare := by
  induction writings generalizing member with
  | nil => rfl
  | cons w writings ih => rw [List.foldl_cons, ih, bare_receive]

theorem property?_receive (member : Member) (w : Writing) (key : String) :
    (member.receive w).resource.property? key =
      if w.receiver = member.resource.id ∧ w.key = key then some w.value
      else member.resource.property? key := by
  unfold receive
  by_cases hid : w.receiver = member.resource.id
  · rw [if_pos (by simp [hid])]
    by_cases hkey : w.key = key
    · rw [if_pos ⟨hid, hkey⟩, ← hkey, Resource.property?_setProperty_self]
    · rw [if_neg (fun h => hkey h.2), Resource.property?_setProperty_of_ne _ _ (Ne.symm hkey)]
  · rw [if_neg (by simpa using Ne.symm hid), if_neg (fun h => hid h.1)]

/-- After any number of writings a property has the last value written to it. -/
theorem property?_foldl_receive (writings : List Writing) (member : Member) (key : String) :
    (writings.foldl receive member).resource.property? key =
      ((lastWriting? writings member.resource.id key).map (·.value)).or
        (member.resource.property? key) := by
  induction writings generalizing member with
  | nil => rfl
  | cons w writings ih =>
    have hid : (member.receive w).resource.id = member.resource.id :=
      id_eq_of_bare (bare_receive member w)
    rw [List.foldl_cons, ih, hid, property?_receive, lastWriting?, lastWriting?, List.reverse_cons,
      List.find?_append]
    cases writings.reverse.find? fun w => w.receiver == member.resource.id && w.key == key with
    | some last => rfl
    | none =>
      by_cases h : w.receiver = member.resource.id ∧ w.key = key
      · simp [h]
      · rw [if_neg h, List.find?_cons_of_neg (by simpa using h)]
        rfl

theorem find?_map {f : Member → Member} (hf : ∀ member, (f member).bare = member.bare)
    (members : List Member) (id : String) :
    find? (members.map f) id = (find? members id).map f := by
  have hid : ((·.resource.id == id) ∘ f) = fun member : Member => member.resource.id == id := by
    funext member
    simp [id_eq_of_bare (hf member)]
  rw [find?, find?, List.find?_map, hid]

theorem find?_eq_some_iff {members : List Member} (hn : (members.map (·.resource.id)).Nodup)
    {id : String} {member : Member} :
    find? members id = some member ↔ member ∈ members ∧ member.resource.id = id :=
  find?_eq_some_iff_of_nodup (fun member : Member => member.resource.id) hn

theorem exists_find?_of_mem {members : List Member} {id : String}
    (h : id ∈ members.map (·.resource.id)) : ∃ member, find? members id = some member := by
  obtain ⟨member, hmember, hid⟩ := List.mem_map.mp h
  exact Option.isSome_iff_exists.mp (List.find?_isSome.mpr ⟨member, hmember, by simp [hid]⟩)

theorem eq_of_id_eq {members : List Member} (hn : (members.map (·.resource.id)).Nodup)
    {a b : Member} (ha : a ∈ members) (hb : b ∈ members) (h : a.resource.id = b.resource.id) :
    a = b := by
  have hfa := (find?_eq_some_iff hn).mpr ⟨ha, h⟩
  rw [(find?_eq_some_iff hn).mpr ⟨hb, rfl⟩] at hfa
  exact (Option.some.inj hfa).symm

theorem update_setProperty {members : List Member} (hn : (members.map (·.resource.id)).Nodup)
    {member : Member} (h : member ∈ members) (key : String) (value : Property) :
    update members (member.resource.setProperty key value) =
      members.map (·.receive ⟨member.resource.id, key, value⟩) := by
  apply List.map_congr_left
  intro other hother
  by_cases hid : other.resource.id = member.resource.id
  · obtain rfl := eq_of_id_eq hn hother h hid
    simp [receive, Resource.setProperty]
  · simp [receive, Resource.setProperty, hid]

end Member

/-- What an edge writes does not depend on the properties that earlier edges have changed. -/
theorem Edge.writing?_map {f : Member → Member} (hf : ∀ member, (f member).bare = member.bare)
    (rules : List Rule) (members : List Member) (edge : Edge) :
    edge.writing? rules (members.map f) = edge.writing? rules members := by
  have hends : ∀ source target, edge.endpoints (f source).resource (f target).resource =
      edge.endpoints source.resource target.resource := by
    intro source target
    simp [Edge.endpoints, Member.typeId_eq_of_bare (hf _)]
  have hwriting : ∀ (directive : ReferenceDirective) source target,
      directive.writing (f source) (f target) = directive.writing source target := by
    intro directive source target
    unfold ReferenceDirective.writing
    simp [Member.id_eq_of_bare (hf _), Member.identity_eq_of_bare (hf _)]
  unfold Edge.writing?
  rw [Member.find?_map hf, Member.find?_map hf]
  cases Member.find? members edge.source with
  | none => rfl
  | some source =>
    cases Member.find? members edge.target with
    | none => rfl
    | some target => simp only [Option.map_some, hends, hwriting]

/-- What the choice of a rule for an edge gives reason to report, if its ends exist. -/
def Edge.resolutionFindings (rules : List Rule) (members : List Member) (edge : Edge) :
    List Finding :=
  match Member.find? members edge.source, Member.find? members edge.target with
  | some source, some target =>
    let endpoints := edge.endpoints source.resource target.resource
    (Rule.resolve rules endpoints).findings edge endpoints
  | _, _ => []

/-- The report of a value that gives way to a writing. It blames another connection if one has
governed the property before. -/
def Writing.report (w : Writing) (edge : Edge) (previous : Property) (governedBefore : Bool) :
    Finding where
  kind := .referenceOverwroteValue
  message :=
    if governedBefore then
      "Property '" ++ w.key ++ "' of '" ++ w.receiver
        ++ "' is set by more than one connection; the last one wins"
    else
      "Connection replaced the value " ++ previous.describe ++ " of property '" ++ w.key
        ++ "' on '" ++ w.receiver ++ "'"
  node := some w.receiver
  edge := some edge.id

namespace Connecting

/-- What is reported of an edge that writes: the value that gives way, if it is set and differs. -/
def report? (state : Connecting) (edge : Edge) (w : Writing) : Option Finding := do
  let previous ← (Member.find? state.members w.receiver).bind (·.resource.property? w.key)
  if previous.isBlank ∨ previous = w.value then none
  else some (w.report edge previous (state.governed.contains (w.receiver, w.key)))

theorem findings_inject (state : Connecting) (edge : Edge) {receiver : Member}
    (h : Member.find? state.members receiver.resource.id = some receiver) (key : String)
    (value : Property) :
    (receiver.resource.inject key value).findings edge
        (state.governed.contains (receiver.resource.id, key)) =
      (state.report? edge ⟨receiver.resource.id, key, value⟩).toList := by
  unfold Injection.findings report? Resource.inject Resource.present?
  dsimp only
  rw [h, Option.bind_some]
  cases receiver.resource.property? key with
  | none => rfl
  | some previous =>
    have hoverwritten : ((some previous).filter (!·.isBlank)).filter (· != value) =
        if previous.isBlank ∨ previous = value then none else some previous := by
      cases hblank : previous.isBlank <;> by_cases heq : previous = value <;>
        simp [Option.filter_some, hblank, heq]
    rw [hoverwritten]
    by_cases hlost : previous.isBlank ∨ previous = value
    · simp [hlost]
    · rw [if_neg hlost, Option.bind_eq_bind, Option.bind_some, if_neg hlost]
      rfl

theorem write_inject (state : Connecting) (hn : (state.members.map (·.resource.id)).Nodup)
    (edge : Edge) {receiver : Member} (h : receiver ∈ state.members) (key : String)
    (value : Property) :
    let w : Writing := ⟨receiver.resource.id, key, value⟩
    state.write edge (receiver.resource.inject key value) =
      { members := state.members.map (·.receive w)
        governed := (w.receiver, w.key) :: state.governed
        findings := state.findings ++ (state.report? edge w).toList } := by
  have hmembers := Member.update_setProperty hn h key value
  have hfindings := state.findings_inject edge ((Member.find?_eq_some_iff hn).mpr ⟨h, rfl⟩) key value
  dsimp only
  rw [← hmembers, ← hfindings]
  rfl

variable (rules : List Rule) {state : Connecting}
  (hn : (state.members.map (·.resource.id)).Nodup)

include hn

/-- One step: an edge carries out what it writes and governs the place from then on; reported are the
choice of the rule and a value that gives way. -/
theorem connect_eq (edge : Edge) : state.connect rules edge =
    let writing? := edge.writing? rules state.members
    { members := state.members.map fun member => writing?.toList.foldl Member.receive member
      governed := (writing?.map fun w => (w.receiver, w.key)).toList ++ state.governed
      findings := state.findings ++ edge.resolutionFindings rules state.members ++
        (writing?.bind (state.report? edge)).toList } := by
  unfold connect Edge.writing? Edge.resolutionFindings
  cases hs : Member.find? state.members edge.source with
  | none => simp
  | some source =>
    cases ht : Member.find? state.members edge.target with
    | none => simp
    | some target =>
      have hsource := ((Member.find?_eq_some_iff hn).mp hs).1
      have htarget := ((Member.find?_eq_some_iff hn).mp ht).1
      let endpoints := edge.endpoints source.resource target.resource
      let resolved : Connecting := { state with
        findings := state.findings ++ (Rule.resolve rules endpoints).findings edge endpoints }
      dsimp only
      cases (Rule.resolve rules endpoints).rule? with
      | none => simp
      | some rule =>
        cases hdirective : rule.reference with
        | none => simp [Rule.inject?, hdirective]
        | some directive =>
          simp only [Option.bind_some, Rule.inject?, hdirective, Option.map_some,
            ReferenceDirective.writing]
          cases directive.side with
          | source => exact write_inject resolved hn edge hsource _ _
          | target => exact write_inject resolved hn edge htarget _ _

theorem members_connect (edge : Edge) : (state.connect rules edge).members =
    state.members.map fun member => (edge.writing? rules state.members).toList.foldl
      Member.receive member :=
  congrArg (·.members) (connect_eq rules hn edge)

theorem governed_connect (edge : Edge) : (state.connect rules edge).governed =
    ((edge.writing? rules state.members).map fun w => (w.receiver, w.key)).toList
      ++ state.governed :=
  congrArg (·.governed) (connect_eq rules hn edge)

theorem findings_connect (edge : Edge) : (state.connect rules edge).findings =
    state.findings ++ edge.resolutionFindings rules state.members ++
      ((edge.writing? rules state.members).bind (state.report? edge)).toList :=
  congrArg (·.findings) (connect_eq rules hn edge)

end Connecting

theorem Connecting.members_foldl_connect (rules : List Rule) (edges : List Edge)
    {state : Connecting} (hn : (state.members.map (·.resource.id)).Nodup) :
    (edges.foldl (Connecting.connect rules) state).members =
      state.members.map fun member => (edges.filterMap (·.writing? rules state.members)).foldl
        Member.receive member := by
  induction edges generalizing state with
  | nil => simp
  | cons edge edges ih =>
    have hbare : ∀ member, ((edge.writing? rules state.members).toList.foldl Member.receive
        member).bare = member.bare := Member.bare_foldl_receive _
    have hstep := Connecting.members_connect rules hn edge
    have hids : ((state.connect rules edge).members.map (·.resource.id)) =
        state.members.map (·.resource.id) := by
      rw [hstep, List.map_map]
      exact List.map_congr_left fun member _ => Member.id_eq_of_bare (hbare member)
    have hrest : edges.filterMap (·.writing? rules (state.connect rules edge).members) =
        edges.filterMap (·.writing? rules state.members) := by
      rw [hstep]
      exact congrArg (edges.filterMap ·) (funext fun other => other.writing?_map hbare rules _)
    rw [List.foldl_cons, ih (hids ▸ hn), hrest, hstep, List.map_map]
    apply List.map_congr_left
    intro member _
    rw [Function.comp_apply, ← List.foldl_append]
    cases h : edge.writing? rules state.members with
    | none => rw [List.filterMap_cons_none h]; rfl
    | some w => rw [List.filterMap_cons_some h]; rfl

/-- Connecting the members of a diagram carries out the writings of its edges. -/
theorem members_connectAll (rules : List Rule) {members : List Member}
    (hn : (members.map (·.resource.id)).Nodup) (edges : List Edge) :
    (connectAll rules members edges).members =
      members.map fun member =>
        (edges.filterMap (·.writing? rules members)).foldl Member.receive member :=
  Connecting.members_foldl_connect rules edges hn

end Groundplan
