import Groundplan.Proofs.Generating
import Groundplan.Proofs.Governing
import Groundplan.Proofs.Kinds
import Groundplan.Proofs.References

/-!
# Overwritten values

A value that the user has set is either what the generators get to see, or the loss is reported: an
edge is the subject of a report just if the value that it replaces is set and differs from the one it
writes. An edge that comes again replaces its own value and reports nothing.
-/

namespace Groundplan

theorem Edge.ofKinds_resolutionFindings (rules : List Rule) (members : List Member) (edge : Edge) :
    Finding.OfKinds [.unresolvedConnection, .ambiguousRule]
      (edge.resolutionFindings rules members) := by
  unfold Edge.resolutionFindings
  split
  · exact Resolution.ofKinds_findings _ _ _
  · exact .nil

theorem Edge.exists_receiver {rules : List Rule} {members : List Member} {edge : Edge} {w : Writing}
    (h : edge.writing? rules members = some w) :
    ∃ receiver ∈ members, receiver.resource.id = w.receiver := by
  obtain ⟨source, hs, target, ht, _, _, directive, _, _, _, _, rfl⟩ := Edge.writing?_eq_some h
  unfold ReferenceDirective.writing
  cases directive.side with
  | source => exact ⟨source, hs, rfl⟩
  | target => exact ⟨target, ht, rfl⟩

namespace Diagram

variable (d : Diagram) (catalog : Catalog)

/-- The state of connecting once the given edges have been processed. -/
def stateAfter (edges : List Edge) : Connecting :=
  connectAll catalog.rules (d.members catalog.types) edges

/-- What a property of a node holds once the given edges have been processed. -/
def valueAfter? (edges : List Edge) (id key : String) : Option Property :=
  (Member.find? (d.stateAfter catalog edges).members id).bind (·.resource.property? key)

/-- The report that is due of an edge that comes after the given ones: there is one if the value that
it replaces is set and differs from the one that it writes. -/
def overwrite? (before : List Edge) (edge : Edge) : Option Finding := do
  let w ← d.injection? catalog edge
  let previous ← d.valueAfter? catalog before w.receiver w.key
  if previous.isBlank ∨ previous = w.value then none
  else some (w.report edge previous !(d.governing catalog before w.receiver w.key).isEmpty)

/-- The reports that are due of edges that come one after the other, after the given ones. -/
def overwrites (before : List Edge) : List Edge → List Finding
  | [] => []
  | edge :: after =>
    (d.overwrite? catalog before edge).toList ++ overwrites (before ++ [edge]) after

variable {d catalog}

theorem stateAfter_concat (edges : List Edge) (edge : Edge) :
    d.stateAfter catalog (edges ++ [edge]) =
      (d.stateAfter catalog edges).connect catalog.rules edge :=
  List.foldl_append

theorem governing_append (first second : List Edge) (id key : String) :
    d.governing catalog (first ++ second) id key =
      d.governing catalog first id key ++ d.governing catalog second id key :=
  List.filter_append first second

theorem overwrite?_eq_some_iff {before : List Edge} {edge : Edge} {f : Finding} :
    d.overwrite? catalog before edge = some f ↔ ∃ w previous,
      d.injection? catalog edge = some w ∧
      d.valueAfter? catalog before w.receiver w.key = some previous ∧
      previous.isBlank = false ∧ previous ≠ w.value ∧
      f = w.report edge previous !(d.governing catalog before w.receiver w.key).isEmpty := by
  simp only [overwrite?, Option.bind_eq_bind, Option.bind_eq_some_iff]
  constructor
  · rintro ⟨w, hw, previous, hprevious, hreport⟩
    split at hreport
    · cases hreport
    · rename_i hlost
      obtain ⟨hset, hdiffers⟩ := not_or.mp hlost
      exact ⟨w, previous, hw, hprevious, by simpa using hset, hdiffers,
        (Option.some.inj hreport).symm⟩
  · rintro ⟨w, previous, hw, hprevious, hset, hdiffers, rfl⟩
    exact ⟨w, hw, previous, hprevious, by simp [hset, hdiffers]⟩

theorem ofKind_overwrite? (before : List Edge) (edge : Edge) :
    Finding.ofKind .referenceOverwroteValue (d.overwrite? catalog before edge).toList =
      (d.overwrite? catalog before edge).toList := by
  cases h : d.overwrite? catalog before edge with
  | none => rfl
  | some f =>
    obtain ⟨w, previous, _, _, _, _, rfl⟩ := overwrite?_eq_some_iff.mp h
    rfl

section Course

variable (hn : ((d.members catalog.types).map (·.resource.id)).Nodup) (edges : List Edge)
  (edge : Edge)

include hn

theorem exists_map_stateAfter : ∃ f : Member → Member, (∀ member, (f member).bare = member.bare) ∧
    (d.stateAfter catalog edges).members = (d.members catalog.types).map f :=
  ⟨_, Member.bare_foldl_receive _, members_connectAll catalog.rules hn edges⟩

theorem nodup_id_stateAfter : ((d.stateAfter catalog edges).members.map (·.resource.id)).Nodup := by
  obtain ⟨f, hbare, hmembers⟩ := exists_map_stateAfter hn edges
  have hids : (d.stateAfter catalog edges).members.map (·.resource.id) =
      (d.members catalog.types).map (·.resource.id) := by
    rw [hmembers, List.map_map]
    exact List.map_congr_left fun member _ => Member.id_eq_of_bare (hbare member)
  exact hids ▸ hn

theorem writing?_stateAfter : edge.writing? catalog.rules (d.stateAfter catalog edges).members =
    d.injection? catalog edge := by
  obtain ⟨f, hbare, hmembers⟩ := exists_map_stateAfter hn edges
  rw [hmembers, Edge.writing?_map hbare, injection?_eq_writing?]

/-- One more edge changes the property that it governs, and no other one. -/
theorem valueAfter?_concat (id key : String) :
    d.valueAfter? catalog (edges ++ [edge]) id key =
      (((d.injection? catalog edge).filter fun w => w.receiver == id && w.key == key).map
        (·.value)).or (d.valueAfter? catalog edges id key) := by
  have hwriting := writing?_stateAfter hn edges edge
  have hmembers : (d.stateAfter catalog (edges ++ [edge])).members =
      (d.stateAfter catalog edges).members.map fun member =>
        (d.injection? catalog edge).toList.foldl Member.receive member := by
    rw [← hwriting, stateAfter_concat]
    exact Connecting.members_connect catalog.rules (nodup_id_stateAfter hn edges) edge
  rw [valueAfter?, hmembers, Member.find?_map (Member.bare_foldl_receive _), valueAfter?]
  cases hw : d.injection? catalog edge with
  | none => simp
  | some w =>
    cases hfound : Member.find? (d.stateAfter catalog edges).members id with
    | none =>
      rw [hw] at hwriting
      obtain ⟨receiver, hmem, hid⟩ := Edge.exists_receiver hwriting
      have hmissing : ∀ member ∈ (d.stateAfter catalog edges).members, member.resource.id ≠ id := by
        simpa [Member.find?] using hfound
      have hne : w.receiver ≠ id := hid ▸ hmissing receiver hmem
      rw [Option.filter_some, if_neg (by simp [hne])]
      rfl
    | some member =>
      have hid : member.resource.id = id := by simpa using List.find?_some hfound
      simp only [Option.map_some, Option.bind_some, Option.toList_some, List.foldl_cons,
        List.foldl_nil, Member.property?_receive, hid]
      by_cases hplace : w.receiver = id ∧ w.key = key
      · rw [if_pos hplace, Option.filter_some, if_pos (by simpa using hplace)]
        rfl
      · rw [if_neg hplace, Option.filter_some, if_neg (by simpa using hplace)]
        rfl

theorem mem_governed_stateAfter {id key : String} :
    (id, key) ∈ (d.stateAfter catalog edges).governed ↔ d.governing catalog edges id key ≠ [] := by
  induction edges using List.reverseRecOn with
  | nil => simp [stateAfter, connectAll, governing]
  | append_singleton edges edge ih =>
    have hlast : (id, key) ∈ ((d.injection? catalog edge).map fun w => (w.receiver, w.key)).toList ↔
        d.governing catalog [edge] id key ≠ [] := by
      rw [governing]
      cases hw : d.injection? catalog edge with
      | none => simp [hw]
      | some w => simp [hw, eq_comm (a := id), eq_comm (a := key)]
    rw [stateAfter_concat, Connecting.governed_connect _ (nodup_id_stateAfter hn edges),
      writing?_stateAfter hn, List.mem_append, ih,
      hlast, governing_append, ne_eq, ne_eq, ne_eq, List.append_eq_nil_iff, not_and_or, or_comm]

theorem report?_stateAfter : (d.injection? catalog edge).bind
    ((d.stateAfter catalog edges).report? edge) = d.overwrite? catalog edges edge := by
  have hgoverned : ∀ id key, (d.stateAfter catalog edges).governed.contains (id, key) =
      !(d.governing catalog edges id key).isEmpty := by
    intro id key
    rw [Bool.eq_iff_iff, List.contains_iff_mem, mem_governed_stateAfter hn]
    simp
  unfold overwrite?
  cases d.injection? catalog edge with
  | none => rfl
  | some w =>
    simp only [Option.bind_eq_bind, Option.bind_some, Connecting.report?, hgoverned]
    rfl

/-- The findings about overwritten values are those that are due, edge by edge. -/
theorem ofKind_findings_stateAfter (before after : List Edge) :
    Finding.ofKind .referenceOverwroteValue (d.stateAfter catalog (before ++ after)).findings =
      Finding.ofKind .referenceOverwroteValue (d.stateAfter catalog before).findings ++
        d.overwrites catalog before after := by
  induction after generalizing before with
  | nil => simp [overwrites]
  | cons edge after ih =>
    have hstep : Finding.ofKind .referenceOverwroteValue
        (d.stateAfter catalog (before ++ [edge])).findings =
          Finding.ofKind .referenceOverwroteValue (d.stateAfter catalog before).findings ++
            (d.overwrite? catalog before edge).toList := by
      have hresolution := (edge.ofKinds_resolutionFindings catalog.rules
        (d.stateAfter catalog before).members).ofKind_eq_nil
          .referenceOverwroteValue (by simp)
      rw [stateAfter_concat, Connecting.findings_connect _ (nodup_id_stateAfter hn before),
        writing?_stateAfter hn, report?_stateAfter hn, Finding.ofKind_append, Finding.ofKind_append,
        hresolution, ofKind_overwrite?, List.append_nil]
    rw [List.append_cons, ih, hstep, overwrites, List.append_assoc]

/-- A set value outlives the edges that follow, or one that governs the property is the subject of a
report. -/
theorem valueAfter?_or_report {before : List Edge} {id key : String} {value : Property}
    (hset : value.isBlank = false) (h : d.valueAfter? catalog before id key = some value)
    (after : List Edge) :
    d.valueAfter? catalog (before ++ after) id key = some value ∨
      ∃ edge ∈ d.governing catalog after id key, ∃ f ∈ d.overwrites catalog before after,
        f.kind = .referenceOverwroteValue ∧ f.node = some id ∧ f.edge = some edge.id := by
  induction after generalizing before with
  | nil => exact .inl (by simpa using h)
  | cons edge after ih =>
    have hstep := valueAfter?_concat hn before edge id key
    have hfollowing : d.valueAfter? catalog (before ++ [edge]) id key = some value →
        d.valueAfter? catalog (before ++ edge :: after) id key = some value ∨
          ∃ other ∈ d.governing catalog (edge :: after) id key,
            ∃ f ∈ d.overwrites catalog before (edge :: after),
              f.kind = .referenceOverwroteValue ∧ f.node = some id ∧ f.edge = some other.id := by
      intro hkept
      rw [List.append_cons]
      refine (ih hkept).imp_right ?_
      rintro ⟨other, hother, f, hf, hfinding⟩
      have hgoverns := (List.Sublist.filter _ (List.sublist_cons_self edge after)).subset hother
      exact ⟨other, hgoverns, f, List.mem_append_right _ hf, hfinding⟩
    cases hplaced : (d.injection? catalog edge).filter
        fun w => w.receiver == id && w.key == key with
    | none =>
      rw [hplaced] at hstep
      exact hfollowing (hstep.trans h)
    | some w =>
      rw [hplaced] at hstep
      obtain ⟨hw, hplace⟩ := Option.filter_eq_some_iff.mp hplaced
      obtain ⟨rfl, rfl⟩ : w.receiver = id ∧ w.key = key := by simpa using hplace
      by_cases hvalue : value = w.value
      · exact hfollowing (hstep.trans (congrArg some hvalue.symm))
      · have hreport := overwrite?_eq_some_iff.mpr ⟨w, value, hw, h, hset, hvalue, rfl⟩
        refine .inr ⟨edge, List.mem_filter.mpr ⟨List.mem_cons_self, by simp [hw]⟩, _,
          List.mem_append_left _ (Option.mem_toList.mpr hreport), rfl, rfl, rfl⟩

theorem overwrite?_concat_self : d.overwrite? catalog (edges ++ [edge]) edge = none := by
  rw [Option.eq_none_iff_forall_not_mem]
  intro f hf
  obtain ⟨w, previous, hw, hprevious, _, hdiffers, _⟩ := overwrite?_eq_some_iff.mp hf
  rw [valueAfter?_concat hn, hw, Option.filter_some, if_pos (by simp)] at hprevious
  exact hdiffers (Option.some.inj hprevious).symm

end Course

/-- Whether edges that follow have the same before them: the same values, and the same properties
governed. -/
structure SameBefore (d : Diagram) (catalog : Catalog) (first second : List Edge) : Prop where
  value_eq : ∀ id key, d.valueAfter? catalog first id key = d.valueAfter? catalog second id key
  governed_iff : ∀ id key,
    d.governing catalog first id key = [] ↔ d.governing catalog second id key = []

namespace SameBefore

variable {first second : List Edge}

theorem overwrite?_eq (h : d.SameBefore catalog first second) (edge : Edge) :
    d.overwrite? catalog first edge = d.overwrite? catalog second edge := by
  have hgoverned : ∀ id key, (d.governing catalog first id key).isEmpty =
      (d.governing catalog second id key).isEmpty := by
    intro id key
    rw [Bool.eq_iff_iff, List.isEmpty_iff, List.isEmpty_iff, h.governed_iff]
  simp only [overwrite?, h.value_eq, hgoverned]

variable (hn : ((d.members catalog.types).map (·.resource.id)).Nodup)

include hn

theorem concat (h : d.SameBefore catalog first second) (edge : Edge) :
    d.SameBefore catalog (first ++ [edge]) (second ++ [edge]) where
  value_eq id key := by rw [valueAfter?_concat hn, valueAfter?_concat hn, h.value_eq]
  governed_iff id key := by
    rw [governing_append, governing_append, List.append_eq_nil_iff, List.append_eq_nil_iff,
      h.governed_iff]

theorem overwrites_eq (h : d.SameBefore catalog first second) (after : List Edge) :
    d.overwrites catalog first after = d.overwrites catalog second after := by
  induction after generalizing first second with
  | nil => rfl
  | cons edge after ih =>
    rw [overwrites, overwrites, h.overwrite?_eq, ih (h.concat hn edge)]

theorem of_repeated (edges : List Edge) (edge : Edge) :
    d.SameBefore catalog (edges ++ [edge] ++ [edge]) (edges ++ [edge]) where
  value_eq id key := by
    rw [valueAfter?_concat hn, valueAfter?_concat hn]
    cases (d.injection? catalog edge).filter fun w => w.receiver == id && w.key == key <;> simp
  governed_iff id key := by
    simp only [governing_append, List.append_eq_nil_iff]
    tauto

end SameBefore

/-- An edge that comes several times in a row gives reason for the reports of one. -/
theorem overwrites_replicate (hn : ((d.members catalog.types).map (·.resource.id)).Nodup)
    (before : List Edge) (edge : Edge) (after : List Edge) (n : Nat) :
    d.overwrites catalog before (List.replicate (n + 1) edge ++ after) =
      d.overwrites catalog before (edge :: after) := by
  induction n with
  | zero => rfl
  | succ n ih =>
    rw [← ih, List.replicate_succ, List.replicate_succ, List.cons_append, List.cons_append,
      overwrites, overwrites, overwrites, overwrite?_concat_self hn,
      (SameBefore.of_repeated hn before edge).overwrites_eq hn]
    rfl

theorem overwrites_append (before first second : List Edge) :
    d.overwrites catalog before (first ++ second) =
      d.overwrites catalog before first ++ d.overwrites catalog (before ++ first) second := by
  induction first generalizing before with
  | nil => simp [overwrites]
  | cons edge first ih =>
    rw [List.cons_append, overwrites, overwrites, ih, List.append_assoc, List.append_assoc]
    rfl

theorem exists_of_mem_overwrites {before edges : List Edge} {f : Finding}
    (h : f ∈ d.overwrites catalog before edges) : ∃ front edge back,
      edges = front ++ edge :: back ∧ d.overwrite? catalog (before ++ front) edge = some f := by
  induction edges generalizing before with
  | nil => cases h
  | cons edge edges ih =>
    rcases List.mem_append.mp h with hfirst | hrest
    · exact ⟨[], edge, edges, rfl, by simpa using hfirst⟩
    · obtain ⟨front, other, back, rfl, hreport⟩ := ih hrest
      refine ⟨edge :: front, other, back, rfl, ?_⟩
      rwa [List.append_assoc, List.singleton_append] at hreport

/-- The finding on an overwritten value in full: which of the two messages it has depends on whether
an earlier edge governs the property. -/
theorem overwrite?_eq {before : List Edge} {edge : Edge} {f : Finding}
    (h : d.overwrite? catalog before edge = some f) : ∃ w previous,
      d.injection? catalog edge = some w ∧
      d.valueAfter? catalog before w.receiver w.key = some previous ∧
      f = { kind := .referenceOverwroteValue, severity := .info
            node := some w.receiver, edge := some edge.id
            message := if (d.governing catalog before w.receiver w.key).isEmpty then
                "Connection replaced the value " ++ previous.describe ++ " of property '" ++ w.key
                  ++ "' on '" ++ w.receiver ++ "'"
              else "Property '" ++ w.key ++ "' of '" ++ w.receiver
                ++ "' is set by more than one connection; the last one wins" } := by
  obtain ⟨w, previous, hw, hprevious, _, _, rfl⟩ := overwrite?_eq_some_iff.mp h
  refine ⟨w, previous, hw, hprevious, ?_⟩
  cases (d.governing catalog before w.receiver w.key).isEmpty <;> rfl

theorem overwrites_edges_eq (d : Diagram) (catalog : Catalog) (edges before after : List Edge) :
    { d with edges }.overwrites catalog before after = d.overwrites catalog before after := by
  induction after generalizing before with
  | nil => rfl
  | cons edge after ih =>
    rw [overwrites, overwrites, ih]
    rfl

/-- A compilation reports the overwritten values edge by edge. -/
theorem ofKind_findings_compileConsistent (catalog : Catalog) (hcheck : d.check = .ok ()) :
    Finding.ofKind .referenceOverwroteValue (d.compileConsistent catalog).findings =
      d.overwrites catalog [] d.edges := by
  have hconnected : Finding.ofKind .referenceOverwroteValue (d.connected catalog).findings =
      d.overwrites catalog [] d.edges :=
    ofKind_findings_stateAfter (nodup_id_members catalog hcheck) [] d.edges
  have hfilled := ((d.connected catalog).ofKinds_filled catalog.types).ofKind_eq_nil
    .referenceOverwroteValue (by simp)
  have hproviders := (ProviderBlocks.ofKinds_build catalog d.project
    ((d.working catalog).map (·.resource))).ofKind_eq_nil .referenceOverwroteValue (by simp)
  have hfailures := (Member.ofKinds_failures catalog.types d (d.working catalog)
    (d.working catalog)).ofKind_eq_nil .referenceOverwroteValue (by simp)
  rw [findings_compileConsistent, Finding.ofKind_append, Finding.ofKind_append,
    Finding.ofKind_append, hconnected, hfilled, hproviders, hfailures]
  simp

theorem valueAfter?_nil (hn : ((d.members catalog.types).map (·.resource.id)).Nodup)
    {node : Resource} (hnode : node ∈ d.nodes) (key : String) :
    d.valueAfter? catalog [] node.id key = node.property? key := by
  rw [← map_resource_assignIdentities catalog.types d.naming [] d.nodes] at hnode
  obtain ⟨member, hmember, rfl⟩ := List.mem_map.mp hnode
  show (Member.find? (d.members catalog.types) member.resource.id).bind _ = _
  rw [(Member.find?_eq_some_iff hn).mpr ⟨hmember, rfl⟩]
  rfl

theorem exists_working_of_valueAfter? {id key : String} {value : Property}
    (hset : value.isBlank = false) (h : d.valueAfter? catalog d.edges id key = some value) :
    ∃ m ∈ d.working catalog, m.resource.id = id ∧ m.resource.property? key = some value := by
  obtain ⟨member, hfound, hvalue⟩ := Option.bind_eq_some_iff.mp h
  have hid : member.resource.id = id := by simpa using List.find?_some hfound
  have hpresent : member.resource.present? key = some value := by
    simp [Resource.present?, hvalue, hset]
  have hmember : (member.withDefaults catalog.types).1 ∈ d.working catalog := by
    rw [working, Connecting.filled, List.map_map]
    exact List.mem_map_of_mem (List.mem_of_find?_eq_some hfound)
  refine ⟨_, hmember, ?_, ?_⟩
  · rw [Member.id_eq_of_bare (Member.bare_withDefaults catalog.types member), hid]
  · exact (Option.filter_eq_some_iff.mp (Member.present?_withDefaults catalog.types hpresent)).1

end Diagram

/-- No set value is lost without a report: the generators get to see it, or an edge that governs the
property is blamed. The reports are those that are due edge by edge, and an edge that is repeated
directly after itself adds none. -/
theorem compile_reports_overwrites (d : Diagram) (catalog : Catalog) (hcheck : d.check = .ok ()) :
    ∃ c, d.compile catalog = .ok c ∧
      (∀ node ∈ d.nodes, ∀ key value, node.present? key = some value →
        (∃ m ∈ d.working catalog, m.resource.id = node.id ∧
          m.resource.property? key = some value) ∨
        ∃ edge ∈ d.governing catalog d.edges node.id key, ∃ f ∈ c.findings,
          f.kind = .referenceOverwroteValue ∧ f.node = some node.id ∧ f.edge = some edge.id) ∧
      Finding.ofKind .referenceOverwroteValue c.findings = d.overwrites catalog [] d.edges ∧
      (∀ f ∈ Finding.ofKind .referenceOverwroteValue c.findings,
        ∃ before edge after w previous, d.edges = before ++ edge :: after ∧
          d.injection? catalog edge = some w ∧
          d.valueAfter? catalog before w.receiver w.key = some previous ∧
          f = { kind := .referenceOverwroteValue, severity := .info
                node := some w.receiver, edge := some edge.id
                message := if (d.governing catalog before w.receiver w.key).isEmpty then
                    "Connection replaced the value " ++ previous.describe ++ " of property '"
                      ++ w.key ++ "' on '" ++ w.receiver ++ "'"
                  else "Property '" ++ w.key ++ "' of '" ++ w.receiver
                    ++ "' is set by more than one connection; the last one wins" }) ∧
      ∀ before edge after n, d.edges = before ++ edge :: after →
        ∃ other, { d with edges := before ++ (List.replicate (n + 1) edge ++ after) }.compile
            catalog = .ok other ∧
          Finding.ofKind .referenceOverwroteValue other.findings =
            Finding.ofKind .referenceOverwroteValue c.findings := by
  have hn := Diagram.nodup_id_members catalog hcheck
  have hreports := Diagram.ofKind_findings_compileConsistent catalog hcheck
  refine ⟨_, Diagram.compile_eq_ok_iff.mpr ⟨hcheck, rfl⟩, ?_, hreports, ?_, ?_⟩
  · intro node hnode key value hpresent
    obtain ⟨hvalue, hset⟩ := Option.filter_eq_some_iff.mp hpresent
    have hstart : d.valueAfter? catalog [] node.id key = some value :=
      (Diagram.valueAfter?_nil hn hnode key).trans hvalue
    have hcourse := Diagram.valueAfter?_or_report hn (by simpa using hset) hstart d.edges
    rcases hcourse with hkept | ⟨edge, hedge, f, hf, hfinding⟩
    · exact .inl (Diagram.exists_working_of_valueAfter? (by simpa using hset) hkept)
    · rw [← hreports] at hf
      exact .inr ⟨edge, hedge, f, (List.mem_filter.mp hf).1, hfinding⟩
  · intro f hf
    rw [hreports] at hf
    obtain ⟨before, edge, after, hedges, hreport⟩ := Diagram.exists_of_mem_overwrites hf
    obtain ⟨w, previous, hw, hprevious, hfinding⟩ := Diagram.overwrite?_eq hreport
    exact ⟨before, edge, after, w, previous, hedges, hw, hprevious, hfinding⟩
  · intro before edge after n hedges
    have hsubset : before ++ (List.replicate (n + 1) edge ++ after) ⊆ d.edges := by
      rw [hedges]
      intro other hother
      simp only [List.mem_append, List.mem_replicate, List.mem_cons] at hother ⊢
      tauto
    have hrepeated := Diagram.check_of_subset hcheck hsubset
    refine ⟨_, Diagram.compile_eq_ok_iff.mpr ⟨hrepeated, rfl⟩, ?_⟩
    rw [Diagram.ofKind_findings_compileConsistent catalog hrepeated, hreports, hedges,
      Diagram.overwrites_edges_eq, Diagram.overwrites_append [] before,
      Diagram.overwrites_replicate hn, ← Diagram.overwrites_append]

theorem compile_reports_overwrites_pumps :
    pumpDiagram.check = .ok () ∧ ∃ c, pumpDiagram.compile pumpCatalog = .ok c ∧
      (∃ f ∈ c.findings, f.kind = .referenceOverwroteValue ∧ f.node = some "a") ∧
      (Finding.ofKind .referenceOverwroteValue c.findings).map (·.message) =
        ["Connection replaced the value String(\"well\") of property 'feed' on 'a'",
         "Property 'feed' of 'a' is set by more than one connection; the last one wins"] ∧
      ∃ other, { pumpDiagram with edges :=
          [pumpEdge "a" "a", pumpEdge "b" "a", pumpEdge "b" "a", pumpEdge "t" "b"] }.compile
            pumpCatalog = .ok other ∧
        Finding.ofKind .referenceOverwroteValue other.findings =
          Finding.ofKind .referenceOverwroteValue c.findings := by
  have hcheck : pumpDiagram.check = .ok () := by decide
  obtain ⟨c, hc, hkept, hreports, _, hrepeated⟩ :=
    compile_reports_overwrites pumpDiagram pumpCatalog hcheck
  refine ⟨hcheck, c, hc, ?_, ?_, hrepeated [pumpEdge "a" "a"] _ [pumpEdge "t" "b"] 1 rfl⟩
  · have hwell : fedPump.present? "feed" = some (.string "well") := by decide
    rcases hkept fedPump List.mem_cons_self "feed" _ hwell with ⟨m, hm, hid, hvalue⟩ | h
    · have hlost : ∀ m ∈ pumpDiagram.working pumpCatalog, m.resource.id = "a" →
          m.resource.property? "feed" ≠ some (.string "well") := by decide
      exact absurd hvalue (hlost m hm hid)
    · obtain ⟨_, _, f, hf, hkind, hnode, _⟩ := h
      exact ⟨f, hf, hkind, hnode⟩
  · rw [hreports]
    rfl

end Groundplan
