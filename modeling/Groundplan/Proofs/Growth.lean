import Groundplan.Proofs.Alike
import Groundplan.Proofs.Generating
import Groundplan.Proofs.Governing
import Groundplan.Proofs.Labels
import Groundplan.Proofs.References

/-!
# Growing diagrams

Nodes and edges are added to a diagram at the end, and no new edge writes into an old node. Then the
old nodes keep their identities and their working copies; and as far as generators mind their own
resource only, all that has been generated stays in place.
-/

namespace Groundplan

namespace Member

variable {members : List Member} {id : String}

theorem find?_append_of_mem (h : id ∈ members.map (·.resource.id)) (more : List Member) :
    find? (members ++ more) id = find? members id := by
  obtain ⟨found, hfound⟩ := exists_find?_of_mem h
  have heq : find? (members ++ more) id = (find? members id).or (find? more id) :=
    List.find?_append
  rw [heq, hfound, Option.some_or]

theorem foldl_receive_of_ne {writings : List Writing} {member : Member}
    (h : ∀ w ∈ writings, w.receiver ≠ member.resource.id) :
    writings.foldl receive member = member := by
  induction writings with
  | nil => rfl
  | cons w writings ih =>
    have hkept : member.receive w = member := by
      unfold receive
      rw [if_neg (by simpa using Ne.symm (h w List.mem_cons_self))]
    rw [List.foldl_cons, hkept]
    exact ih fun other hother => h other (List.mem_cons_of_mem _ hother)

end Member

theorem Edge.writing?_append (rules : List Rule) {members : List Member} {edge : Edge}
    (hsource : edge.source ∈ members.map (·.resource.id))
    (htarget : edge.target ∈ members.map (·.resource.id)) (more : List Member) :
    edge.writing? rules (members ++ more) = edge.writing? rules members := by
  rw [writing?, writing?, Member.find?_append_of_mem hsource, Member.find?_append_of_mem htarget]

/-- Whether the generators of a catalog look at no other resource than their own. -/
def Catalog.Local (catalog : Catalog) : Prop :=
  ∀ typeId type, catalog.types.get? typeId = some type → ∀ (r : Resource) (c e : Context),
    c.Alike r.id e → type.generate r c = type.generate r e

namespace Diagram

/-- The diagram with more nodes and edges at the end. -/
def grow (d : Diagram) (nodes : List Resource) (edges : List Edge) : Diagram :=
  { d with nodes := d.nodes ++ nodes, edges := d.edges ++ edges }

variable {d : Diagram} {catalog : Catalog} {nodes : List Resource} {edges : List Edge}

theorem exists_members_grow (d : Diagram) (types : Registry) (nodes : List Resource)
    (edges : List Edge) : ∃ more, (d.grow nodes edges).members types = d.members types ++ more := by
  obtain ⟨takenBefore, h⟩ := assignIdentities_append types d.naming [] d.nodes nodes
  exact ⟨_, h⟩

theorem identity?_grow (catalog : Catalog) (nodes : List Resource) (edges : List Edge)
    {node : Resource} (h : node ∈ d.nodes) :
    ∃ i, d.identity? catalog node.id = some i ∧
      (d.grow nodes edges).identity? catalog node.id = some i := by
  obtain ⟨more, hmembers⟩ := exists_members_grow d catalog.types nodes edges
  have hid : node.id ∈ (d.members catalog.types).map (·.resource.id) := by
    rw [map_id_members]
    exact List.mem_map_of_mem h
  obtain ⟨found, hfound⟩ := Member.exists_find?_of_mem hid
  refine ⟨found.identity, ?_, ?_⟩
  · rw [identity?, hfound]
    rfl
  · rw [identity?, hmembers, Member.find?_append_of_mem hid, hfound]
    rfl

section Growth

variable (hcheck : d.check = .ok ()) (hgrown : (d.grow nodes edges).check = .ok ())
  (hedges : ∀ edge ∈ edges, ∀ w, (d.grow nodes edges).injection? catalog edge = some w →
    w.receiver ∈ nodes.map (·.id))

include hcheck hedges

/-- What the new edges write comes after what the old ones do, and goes to new nodes. -/
theorem exists_writings_grow : ∃ added, (d.grow nodes edges).writings catalog =
    d.writings catalog ++ added ∧ ∀ w ∈ added, w.receiver ∈ nodes.map (·.id) := by
  obtain ⟨more, hmembers⟩ := exists_members_grow d catalog.types nodes edges
  refine ⟨edges.filterMap (·.writing? catalog.rules ((d.grow nodes edges).members catalog.types)),
    ?_, ?_⟩
  · have hold : d.edges.filterMap
        (·.writing? catalog.rules ((d.grow nodes edges).members catalog.types)) =
          d.writings catalog := by
      apply List.filterMap_congr
      intro edge hedge
      obtain ⟨hsource, htarget⟩ := (check_eq_ok_iff.mp hcheck).2 edge hedge
      rw [← map_id_members d catalog] at hsource htarget
      rw [hmembers, Edge.writing?_append catalog.rules hsource htarget]
    rw [← hold]
    exact List.filterMap_append
  · intro w hw
    obtain ⟨edge, hedge, hwriting⟩ := List.mem_filterMap.mp hw
    exact hedges edge hedge w ((injection?_eq_writing? _ _ _).trans hwriting)

include hgrown

theorem workingCopy_grow {member : Member} (h : member ∈ d.members catalog.types) :
    (d.grow nodes edges).workingCopy catalog member = d.workingCopy catalog member := by
  obtain ⟨added, hwritings, hreceivers⟩ := exists_writings_grow hcheck hedges
  have hid : member.resource.id ∈ d.nodes.map (·.id) :=
    map_id_members d catalog ▸ List.mem_map_of_mem h
  have hnodes : (d.nodes.map (·.id) ++ nodes.map (·.id)).Nodup := by
    rw [← List.map_append]
    exact (check_eq_ok_iff.mp hgrown).1
  have hothers : ∀ w ∈ added, w.receiver ≠ ((d.writings catalog).foldl Member.receive
      member).resource.id := by
    intro w hw heq
    rw [Member.id_eq_of_bare (Member.bare_foldl_receive _ member)] at heq
    exact (List.nodup_append.mp hnodes).2.2 _ hid _ (hreceivers w hw) heq.symm
  rw [workingCopy, workingCopy, hwritings, List.foldl_append, Member.foldl_receive_of_ne hothers]

theorem exists_working_grow :
    ∃ more, (d.grow nodes edges).working catalog = d.working catalog ++ more := by
  obtain ⟨more, hmembers⟩ := exists_members_grow d catalog.types nodes edges
  rw [working_eq catalog hcheck, working_eq catalog hgrown, hmembers, List.map_append]
  refine ⟨_, congrArg (· ++ _) (List.map_congr_left fun member hmember => ?_)⟩
  exact workingCopy_grow hcheck hgrown hedges hmember

theorem generation_grow (hlocal : catalog.Local) {m : Member} (hm : m ∈ d.working catalog) :
    (d.grow nodes edges).generation catalog m = d.generation catalog m := by
  obtain ⟨more, hworking⟩ := exists_working_grow hcheck hgrown hedges
  cases htype : catalog.types.get? m.resource.typeId with
  | none => rw [generation_eq_fail _ catalog htype, generation_eq_fail _ catalog htype]
  | some type =>
    rw [generation_eq_generate _ catalog htype, generation_eq_generate _ catalog htype]
    apply hlocal _ type htype
    refine ⟨rfl, rfl, ?_⟩
    unfold Context.address? context
    dsimp only
    rw [hworking, Member.find?_append_of_mem (List.mem_map_of_mem hm)]

/-- Whatever is collected from the resources that succeed, the old part stays at the front. -/
theorem flatMap_successes_prefix (hlocal : catalog.Local) {α : Type}
    (collect : Generation (List Block) → List α) :
    ((d.successes catalog).flatMap fun m => collect (d.generation catalog m)) <+:
      ((d.grow nodes edges).successes catalog).flatMap
        fun m => collect ((d.grow nodes edges).generation catalog m) := by
  obtain ⟨more, hworking⟩ := exists_working_grow hcheck hgrown hedges
  have hsame : ∀ m ∈ d.working catalog,
      (d.grow nodes edges).generation catalog m = d.generation catalog m :=
    fun m hm => generation_grow hcheck hgrown hedges hlocal hm
  have hsuccesses : (d.grow nodes edges).successes catalog = d.successes catalog ++
      more.filter fun m => ((d.grow nodes edges).generation catalog m).succeeds := by
    rw [successes, hworking, List.filter_append]
    exact congrArg (· ++ _) (List.filter_congr fun m hm => by rw [hsame m hm])
  have hcollected : ((d.successes catalog).flatMap fun m => collect (d.generation catalog m)) =
      (d.successes catalog).flatMap
        fun m => collect ((d.grow nodes edges).generation catalog m) :=
    List.flatMap_congr fun m hm => by rw [hsame m (List.mem_filter.mp hm).1]
  rw [hsuccesses, List.flatMap_append, hcollected]
  exact List.prefix_append _ _

theorem blocks_prefix_grow (hlocal : catalog.Local) :
    (d.compileConsistent catalog).blocks <+:
      ((d.grow nodes edges).compileConsistent catalog).blocks := by
  rw [blocks_compileConsistent, blocks_compileConsistent]
  exact flatMap_successes_prefix hcheck hgrown hedges hlocal (·.results)

theorem variables_prefix_grow (hlocal : catalog.Local) :
    (d.compileConsistent catalog).variables <+:
      ((d.grow nodes edges).compileConsistent catalog).variables := by
  rw [variables_compileConsistent, variables_compileConsistent]
  obtain ⟨added, hadded⟩ := flatMap_successes_prefix hcheck hgrown hedges hlocal
    fun g => g.declared.filterMap (·.toVariable?)
  rw [← hadded]
  exact firstNamed_prefix _ _ _

theorem outputs_prefix_grow (hlocal : catalog.Local) :
    (d.compileConsistent catalog).outputs <+:
      ((d.grow nodes edges).compileConsistent catalog).outputs := by
  rw [outputs_compileConsistent, outputs_compileConsistent]
  obtain ⟨added, hadded⟩ := flatMap_successes_prefix hcheck hgrown hedges hlocal
    fun g => g.declared.filterMap (·.toOutput?)
  rw [← hadded]
  exact firstNamed_prefix _ _ _

end Growth

end Diagram

end Groundplan
