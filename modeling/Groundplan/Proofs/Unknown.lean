import Groundplan.Proofs.Agreement
import Groundplan.Proofs.Course
import Groundplan.Proofs.Growth
import Groundplan.Proofs.Providing

/-!
# Nodes of unknown type

A node whose type is not registered gets no address, has no provider and takes part in no connection.
So a diagram gives the same configuration without such nodes and the edges that end there, and the
findings about them stand between the others without changing any.
-/

namespace Groundplan

/-- Whether the third list holds the items of the first two, each in its order. -/
inductive Interleaved {α : Type} : List α → List α → List α → Prop where
  | nil : Interleaved [] [] []
  | left (a : α) {first second all : List α} (h : Interleaved first second all) :
      Interleaved (a :: first) second (a :: all)
  | right (a : α) {first second all : List α} (h : Interleaved first second all) :
      Interleaved first (a :: second) (a :: all)

namespace Interleaved

variable {α : Type} {first second all otherFirst otherSecond otherAll : List α}

theorem append (h : Interleaved first second all)
    (hother : Interleaved otherFirst otherSecond otherAll) :
    Interleaved (first ++ otherFirst) (second ++ otherSecond) (all ++ otherAll) := by
  induction h with
  | nil => exact hother
  | left a _ ih => exact ih.left a
  | right a _ ih => exact ih.right a

theorem of_left (first : List α) : Interleaved first [] first := by
  induction first with
  | nil => exact .nil
  | cons a first ih => exact ih.left a

theorem of_right (second : List α) : Interleaved [] second second := by
  induction second with
  | nil => exact .nil
  | cons a second ih => exact ih.right a

theorem filterMap_filter {β : Type} (f : β → Option α) (keep : β → Bool) (items : List β) :
    Interleaved ((items.filter keep).filterMap f) ((items.filter (!keep ·)).filterMap f)
      (items.filterMap f) := by
  induction items with
  | nil => exact .nil
  | cons item items ih =>
    cases h : keep item with
    | true =>
      rw [List.filter_cons_of_pos h, List.filter_cons_of_neg (by simp [h]), List.filterMap_cons,
        List.filterMap_cons]
      cases f item with
      | none => exact ih
      | some a => exact ih.left a
    | false =>
      rw [List.filter_cons_of_neg (by simp [h]), List.filter_cons_of_pos (by simp [h]),
        List.filterMap_cons, List.filterMap_cons]
      cases f item with
      | none => exact ih
      | some a => exact ih.right a

end Interleaved

theorem flatMap_filter_eq {α β : Type} {f : β → List α} {keep : β → Bool} {items : List β}
    (h : ∀ item ∈ items, keep item = false → f item = []) :
    (items.filter keep).flatMap f = items.flatMap f := by
  induction items with
  | nil => rfl
  | cons item items ih =>
    have hrest := ih fun other hother => h other (List.mem_cons_of_mem _ hother)
    cases hkeep : keep item with
    | true => rw [List.filter_cons_of_pos hkeep, List.flatMap_cons, List.flatMap_cons, hrest]
    | false =>
      rw [List.filter_cons_of_neg (by simp [hkeep]), List.flatMap_cons,
        h item List.mem_cons_self hkeep, hrest, List.nil_append]

/-- Edges that write nothing add their findings to the course of the others and leave it as it is. -/
theorem interleaved_courseFindings {start keptStart : Values}
    {resolution keptResolution : Edge → List Finding} {inject? keptInject? : Edge → Option Writing}
    {keep : Edge → Bool} {edges : List Edge} (before : List Writing)
    (hresolution : ∀ edge ∈ edges, keep edge = true → keptResolution edge = resolution edge)
    (hinject : ∀ edge ∈ edges, keep edge = true → keptInject? edge = inject? edge)
    (hstart : ∀ edge ∈ edges, keep edge = true → ∀ w, inject? edge = some w →
      keptStart w.receiver w.key = start w.receiver w.key)
    (hlost : ∀ edge ∈ edges, keep edge = false → inject? edge = none) :
    Interleaved (courseFindings keptStart keptResolution keptInject? before (edges.filter keep))
      ((edges.filter (!keep ·)).flatMap resolution)
      (courseFindings start resolution inject? before edges) := by
  induction edges generalizing before with
  | nil => exact .nil
  | cons edge edges ih =>
    have hrest := fun before => ih before
      (fun e he => hresolution e (List.mem_cons_of_mem _ he))
      (fun e he => hinject e (List.mem_cons_of_mem _ he))
      (fun e he => hstart e (List.mem_cons_of_mem _ he))
      (fun e he => hlost e (List.mem_cons_of_mem _ he))
    cases h : keep edge with
    | true =>
      have hloss : (inject? edge).bind (Writing.loss? keptStart before edge) =
          (inject? edge).bind (Writing.loss? start before edge) := by
        apply Option.bind_congr
        intro w hw
        rw [Writing.loss?, Writing.loss?, Values.after, Values.after,
          hstart edge List.mem_cons_self h w hw]
      rw [List.filter_cons_of_pos h, List.filter_cons_of_neg (by simp [h]), courseFindings,
        courseFindings, hresolution edge List.mem_cons_self h, hinject edge List.mem_cons_self h,
        hloss]
      exact (Interleaved.of_left _).append (hrest _)
    | false =>
      rw [List.filter_cons_of_neg (by simp [h]), List.filter_cons_of_pos (by simp [h]),
        courseFindings, hlost edge List.mem_cons_self h]
      simp only [Option.bind_none, Option.toList_none, List.append_nil]
      exact (Interleaved.of_right _).append (hrest before)

/-- Whether the type of a node is registered. -/
def Registry.knows (types : Registry) (node : Resource) : Bool := (types.get? node.typeId).isSome

theorem Registry.knows_eq_false {types : Registry} {node : Resource} :
    types.knows node = false ↔ types.get? node.typeId = none := by
  simp [knows]

/-- Whether the rules of a catalog are for ends of registered types alone. -/
def Catalog.RulesKnown (catalog : Catalog) : Prop :=
  ∀ rule ∈ catalog.rules, (catalog.types.get? rule.endpoints.sourceType).isSome ∧
    (catalog.types.get? rule.endpoints.targetType).isSome

theorem assignIdentities_filter_knows (types : Registry) (naming : Naming) (taken : List String)
    (nodes : List Resource) :
    assignIdentities types naming taken (nodes.filter types.knows) =
      (assignIdentities types naming taken nodes).filter fun member =>
        types.knows member.resource :=
  assignIdentities_filter
    (fun node hnode => by rw [Registry.knows_eq_false.mp hnode, Option.bind_none]) naming taken nodes

theorem Member.find?_filter {members : List Member} {keep : Member → Bool} {id : String}
    (h : ∀ member ∈ members, member.resource.id = id → keep member = true) :
    find? (members.filter keep) id = find? members id := by
  induction members with
  | nil => rfl
  | cons member members ih =>
    have hrest := ih fun other hother => h other (List.mem_cons_of_mem _ hother)
    by_cases hid : member.resource.id = id
    · rw [List.filter_cons_of_pos (h member List.mem_cons_self hid), find?, find?,
        List.find?_cons_of_pos (by simpa using hid), List.find?_cons_of_pos (by simpa using hid)]
    · have hskip : ∀ rest, find? (member :: rest) id = find? rest id := fun rest =>
        List.find?_cons_of_neg (by simpa using hid)
      cases hkeep : keep member with
      | true => rw [List.filter_cons_of_pos hkeep, hskip, hskip, hrest]
      | false => rw [List.filter_cons_of_neg (by simp [hkeep]), hskip, hrest]

namespace Diagram

variable (d : Diagram) (types : Registry)

/-- Whether an edge ends at a node of unknown type. -/
def endsAtUnknown (edge : Edge) : Bool :=
  d.nodes.any fun node => !types.knows node && (node.id == edge.source || node.id == edge.target)

/-- The diagram without the nodes of unknown type and the edges that end there. -/
def withoutUnknown : Diagram :=
  { d with
    nodes := d.nodes.filter types.knows
    edges := d.edges.filter (!d.endsAtUnknown types ·) }

/-- The types and handles at the ends of an edge. -/
def endpoints (edge : Edge) : Endpoints where
  sourceType := (d.node? edge.source).elim "" (·.typeId)
  sourceHandle := edge.sourceHandle
  targetType := (d.node? edge.target).elim "" (·.typeId)
  targetHandle := edge.targetHandle

/-- The reports that no rule allows some edges. -/
def unresolvedFindings (edges : List Edge) : List Finding :=
  edges.flatMap fun edge => Resolution.unresolved.findings edge (d.endpoints edge)

/-- The findings that are due to nodes of unknown type: the edges that end there are allowed by no
rule, and nothing can be generated for the nodes. -/
def unknownFindings : List Finding :=
  d.unresolvedFindings (d.edges.filter (d.endsAtUnknown types)) ++
    (d.nodes.filter (!types.knows ·)).map fun node =>
      Generated.unknownFinding node (.unknownType node.typeId)

theorem members_withoutUnknown : (d.withoutUnknown types).members types =
    (d.members types).filter fun member => types.knows member.resource :=
  assignIdentities_filter_knows types d.naming [] d.nodes

variable {d types}

theorem check_withoutUnknown (hcheck : d.check = .ok ()) :
    (d.withoutUnknown types).check = .ok () := by
  obtain ⟨hn, hends⟩ := check_eq_ok_iff.mp hcheck
  refine check_eq_ok_iff.mpr ⟨hn.sublist (List.filter_sublist.map _), ?_⟩
  intro edge hedge
  obtain ⟨hmem, hknown⟩ := List.mem_filter.mp hedge
  have hkept : ∀ id, id ∈ d.nodes.map (·.id) → (id = edge.source ∨ id = edge.target) →
      id ∈ (d.nodes.filter types.knows).map (·.id) := by
    intro id hid hend
    obtain ⟨node, hnode, rfl⟩ := List.mem_map.mp hid
    refine List.mem_map_of_mem (List.mem_filter.mpr ⟨hnode, ?_⟩)
    have hends := List.any_eq_false.mp (Bool.not_eq_eq_eq_not.mp hknown) node hnode
    simpa [hend] using hends
  exact ⟨hkept _ (hends edge hmem).1 (.inl rfl), hkept _ (hends edge hmem).2 (.inr rfl)⟩

end Diagram

theorem Catalog.RulesKnown.resolve_eq {catalog : Catalog} (hrules : catalog.RulesKnown)
    {e : Endpoints} (h : catalog.types.get? e.sourceType = none ∨
      catalog.types.get? e.targetType = none) : Rule.resolve catalog.rules e = .unresolved := by
  have hnone : catalog.rules.filter (·.allows e) = [] := by
    rw [List.filter_eq_nil_iff]
    intro rule hrule hallows
    obtain rfl : rule.endpoints = e := by simpa [Rule.allows] using hallows
    obtain ⟨hsource, htarget⟩ := hrules rule hrule
    rcases h with h | h <;> simp [h] at hsource htarget
  rw [Rule.resolve, hnone]

theorem Edge.receiver_eq_end {rules : List Rule} {members : List Member} {edge : Edge} {w : Writing}
    (h : edge.writing? rules members = some w) :
    w.receiver = edge.source ∨ w.receiver = edge.target := by
  obtain ⟨source, _, target, _, _, _, directive, hs, ht, _, _, rfl⟩ := Edge.writing?_eq_some h
  have hsource : source.resource.id = edge.source := by simpa using List.find?_some hs
  have htarget : target.resource.id = edge.target := by simpa using List.find?_some ht
  unfold ReferenceDirective.writing
  cases directive.side with
  | source => exact .inl hsource
  | target => exact .inr htarget

namespace Diagram

section Edges

variable {d : Diagram} {catalog : Catalog} {edge : Edge}

theorem find?_members_withoutUnknown (hkept : d.endsAtUnknown catalog.types edge = false)
    {id : String} (hid : id = edge.source ∨ id = edge.target) :
    Member.find? ((d.withoutUnknown catalog.types).members catalog.types) id =
      Member.find? (d.members catalog.types) id := by
  rw [members_withoutUnknown]
  apply Member.find?_filter
  intro member hmember heq
  have hends := List.any_eq_false.mp hkept member.resource (mem_nodes_of_mem_members hmember)
  simpa [heq, hid] using hends

theorem writing?_withoutUnknown (hkept : d.endsAtUnknown catalog.types edge = false) :
    edge.writing? catalog.rules ((d.withoutUnknown catalog.types).members catalog.types) =
      edge.writing? catalog.rules (d.members catalog.types) := by
  rw [Edge.writing?, Edge.writing?, find?_members_withoutUnknown hkept (.inl rfl),
    find?_members_withoutUnknown hkept (.inr rfl)]

theorem resolutionFindings_withoutUnknown (hkept : d.endsAtUnknown catalog.types edge = false) :
    edge.resolutionFindings catalog.rules ((d.withoutUnknown catalog.types).members catalog.types) =
      edge.resolutionFindings catalog.rules (d.members catalog.types) := by
  rw [Edge.resolutionFindings, Edge.resolutionFindings,
    find?_members_withoutUnknown hkept (.inl rfl), find?_members_withoutUnknown hkept (.inr rfl)]

variable (hcheck : d.check = .ok ())

include hcheck

theorem resource_eq_of_find? {node : Resource} (hnode : node ∈ d.nodes) {member : Member}
    (h : Member.find? (d.members catalog.types) node.id = some member) :
    member.resource = node := by
  have hfound : d.node? node.id = some node :=
    (find?_eq_some_iff_of_nodup (fun node : Resource => node.id)
      (check_eq_ok_iff.mp hcheck).1).mpr ⟨hnode, rfl⟩
  rw [← map_resource_find? d catalog, h] at hfound
  exact Option.some.inj hfound

theorem get?_eq_none_of_endsAtUnknown {source target : Member}
    (hs : Member.find? (d.members catalog.types) edge.source = some source)
    (ht : Member.find? (d.members catalog.types) edge.target = some target)
    (hends : d.endsAtUnknown catalog.types edge = true) :
    catalog.types.get? source.resource.typeId = none ∨
      catalog.types.get? target.resource.typeId = none := by
  obtain ⟨node, hnode, htouches⟩ := List.any_eq_true.mp hends
  simp only [Bool.and_eq_true, Bool.not_eq_true', Bool.or_eq_true, beq_iff_eq] at htouches
  obtain ⟨hunknown, hend⟩ := htouches
  have hnone := Registry.knows_eq_false.mp hunknown
  rcases hend with hsource | htarget
  · rw [← hsource] at hs
    exact .inl (resource_eq_of_find? hcheck hnode hs ▸ hnone)
  · rw [← htarget] at ht
    exact .inr (resource_eq_of_find? hcheck hnode ht ▸ hnone)

theorem unresolved_of_endsAtUnknown (hrules : catalog.RulesKnown) (hedge : edge ∈ d.edges)
    (hends : d.endsAtUnknown catalog.types edge = true) :
    edge.writing? catalog.rules (d.members catalog.types) = none ∧
      edge.resolutionFindings catalog.rules (d.members catalog.types) =
        Resolution.unresolved.findings edge (d.endpoints edge) := by
  obtain ⟨hsource, htarget⟩ := (check_eq_ok_iff.mp hcheck).2 edge hedge
  rw [← map_id_members d catalog] at hsource htarget
  obtain ⟨source, hs⟩ := Member.exists_find?_of_mem hsource
  obtain ⟨target, ht⟩ := Member.exists_find?_of_mem htarget
  have hunresolved : Rule.resolve catalog.rules (edge.endpoints source.resource target.resource) =
      .unresolved := hrules.resolve_eq (get?_eq_none_of_endsAtUnknown hcheck hs ht hends)
  have hendpoints : d.endpoints edge = edge.endpoints source.resource target.resource := by
    rw [endpoints, ← map_resource_find? d catalog, ← map_resource_find? d catalog, hs, ht]
    rfl
  constructor
  · simp only [Edge.writing?, hs, ht, hunresolved]
    rfl
  · simp only [Edge.resolutionFindings, hs, ht, hunresolved, hendpoints]

end Edges

section Phases

variable {d : Diagram} {catalog : Catalog} (hcheck : d.check = .ok ()) (hrules : catalog.RulesKnown)

include hcheck hrules

theorem writings_withoutUnknown :
    (d.withoutUnknown catalog.types).writings catalog = d.writings catalog := by
  have hedges : (d.withoutUnknown catalog.types).edges =
      d.edges.filter (!d.endsAtUnknown catalog.types ·) := rfl
  rw [writings, writings, hedges, List.filterMap_filter]
  apply List.filterMap_congr
  intro edge hedge
  cases h : d.endsAtUnknown catalog.types edge with
  | true => simp [(unresolved_of_endsAtUnknown hcheck hrules hedge h).1]
  | false => simpa using writing?_withoutUnknown h

theorem interleaved_connected :
    Interleaved ((d.withoutUnknown catalog.types).connected catalog).findings
      (d.unresolvedFindings (d.edges.filter (d.endsAtUnknown catalog.types)))
      (d.connected catalog).findings := by
  have hlost : (d.edges.filter (! !d.endsAtUnknown catalog.types ·)).flatMap
      (·.resolutionFindings catalog.rules (d.members catalog.types)) =
        d.unresolvedFindings (d.edges.filter (d.endsAtUnknown catalog.types)) := by
    simp only [Bool.not_not]
    apply List.flatMap_congr
    intro edge hedge
    obtain ⟨hmem, hends⟩ := List.mem_filter.mp hedge
    exact (unresolved_of_endsAtUnknown hcheck hrules hmem hends).2
  rw [connected, connected, findings_connectAll _ (nodup_id_members catalog hcheck),
    findings_connectAll _ (nodup_id_members catalog (check_withoutUnknown hcheck)), ← hlost]
  apply interleaved_courseFindings []
  · exact fun edge _ hkept => resolutionFindings_withoutUnknown (by simpa using hkept)
  · exact fun edge _ hkept => writing?_withoutUnknown (by simpa using hkept)
  · intro edge _ hkept w hw
    rw [Member.values, Member.values,
      find?_members_withoutUnknown (by simpa using hkept) (Edge.receiver_eq_end hw)]
  · intro edge hedge hends
    exact (unresolved_of_endsAtUnknown hcheck hrules hedge (by simpa using hends)).1

theorem workingCopy_withoutUnknown (member : Member) :
    (d.withoutUnknown catalog.types).workingCopy catalog member = d.workingCopy catalog member := by
  rw [workingCopy, workingCopy, writings_withoutUnknown hcheck hrules]

theorem working_withoutUnknown : (d.withoutUnknown catalog.types).working catalog =
    (d.working catalog).filter fun m => catalog.types.knows m.resource := by
  have hknows : ((fun m => catalog.types.knows m.resource) ∘ d.workingCopy catalog) =
      fun member : Member => catalog.types.knows member.resource := by
    funext member
    simp [Registry.knows]
  rw [working_eq catalog hcheck, working_eq catalog (check_withoutUnknown hcheck),
    members_withoutUnknown, List.filter_map, hknows]
  exact List.map_congr_left fun member _ => workingCopy_withoutUnknown hcheck hrules member

theorem filledFindings_withoutUnknown :
    (((d.withoutUnknown catalog.types).connected catalog).filled catalog.types).flatMap (·.2) =
      ((d.connected catalog).filled catalog.types).flatMap (·.2) := by
  rw [Connecting.filled, Connecting.filled, members_connected hcheck,
    members_connected (check_withoutUnknown hcheck), members_withoutUnknown,
    writings_withoutUnknown hcheck hrules, List.map_map, List.map_map, List.flatMap_map,
    List.flatMap_map]
  apply flatMap_filter_eq
  intro member _ hunknown
  have htype := Member.typeId_eq_of_bare (Member.bare_foldl_receive (d.writings catalog) member)
  rw [Function.comp_apply, Member.withDefaults, htype, Registry.knows_eq_false.mp hunknown]

theorem build_withoutUnknown :
    ProviderBlocks.build catalog d.project
        (((d.withoutUnknown catalog.types).working catalog).map (·.resource)) =
      ProviderBlocks.build catalog d.project ((d.working catalog).map (·.resource)) := by
  have hfilter : ((d.withoutUnknown catalog.types).working catalog).map (·.resource) =
      ((d.working catalog).map (·.resource)).filter catalog.types.knows := by
    rw [working_withoutUnknown hcheck hrules, List.filter_map]
    rfl
  rw [hfilter]
  exact ProviderBlocks.build_filter catalog d.project _ fun r _ => Registry.knows_eq_false.mp

variable (hlocal : catalog.Local)

include hlocal

/-- What is generated for a node of known type does not depend on the others. -/
theorem generation_withoutUnknown {m : Member} (hm : m ∈ d.working catalog)
    (hknown : catalog.types.knows m.resource = true) :
    (d.withoutUnknown catalog.types).generation catalog m = d.generation catalog m := by
  have hn := nodup_id_working catalog hcheck
  obtain ⟨type, htype⟩ := Option.isSome_iff_exists.mp hknown
  rw [generation_eq_generate _ catalog htype, generation_eq_generate _ catalog htype]
  apply hlocal _ type htype
  refine ⟨rfl, rfl, ?_⟩
  have hfound : Member.find? ((d.withoutUnknown catalog.types).working catalog) m.resource.id =
      Member.find? (d.working catalog) m.resource.id := by
    rw [working_withoutUnknown hcheck hrules]
    apply Member.find?_filter
    intro other hother hid
    rw [Member.eq_of_id_eq hn hother hm hid]
    exact hknown
  exact congrArg (Option.bind · (·.identity.address?)) hfound

theorem successes_withoutUnknown :
    (d.withoutUnknown catalog.types).successes catalog = d.successes catalog := by
  rw [successes, successes, working_withoutUnknown hcheck hrules, List.filter_filter]
  apply List.filter_congr
  intro m hm
  cases hknown : catalog.types.knows m.resource with
  | true => rw [Bool.and_true, generation_withoutUnknown hcheck hrules hlocal hm hknown]
  | false =>
    rw [Bool.and_false, generation_eq_fail _ catalog (Registry.knows_eq_false.mp hknown)]
    rfl

theorem failures_known :
    ((d.withoutUnknown catalog.types).working catalog).filterMap (·.failure? catalog.types
        (d.withoutUnknown catalog.types) ((d.withoutUnknown catalog.types).working catalog)) =
      ((d.working catalog).filter fun m => catalog.types.knows m.resource).filterMap
        (·.failure? catalog.types d (d.working catalog)) := by
  rw [← working_withoutUnknown hcheck hrules]
  apply List.filterMap_congr
  intro m hm
  rw [working_withoutUnknown hcheck hrules] at hm
  obtain ⟨hm, hknown⟩ := List.mem_filter.mp hm
  have hgeneration := generation_withoutUnknown hcheck hrules hlocal hm hknown
  rw [generation, generation] at hgeneration
  rw [Member.failure?, Member.failure?, hgeneration]

omit hrules hlocal in
theorem failures_unknown :
    ((d.working catalog).filter fun m => !catalog.types.knows m.resource).filterMap
        (·.failure? catalog.types d (d.working catalog)) =
      (d.nodes.filter (!catalog.types.knows ·)).map fun node =>
        Generated.unknownFinding node (.unknownType node.typeId) := by
  have hunknown : ((fun m : Member => !catalog.types.knows m.resource) ∘ d.workingCopy catalog) =
      (!catalog.types.knows ·) ∘ fun member : Member => member.resource := by
    funext member
    simp [Registry.knows]
  have hcopies : ∀ report : Member → Option Finding,
      ((d.working catalog).filter fun m => !catalog.types.knows m.resource).filterMap report =
        ((d.members catalog.types).filter ((!catalog.types.knows ·) ∘ (·.resource))).filterMap
          (report ∘ d.workingCopy catalog) := by
    intro report
    rw [working_eq catalog hcheck, List.filter_map, hunknown, List.filterMap_map]
  rw [hcopies, ← map_resource_assignIdentities catalog.types d.naming [] d.nodes, List.filter_map,
    List.map_map, ← List.filterMap_eq_map]
  apply List.filterMap_congr
  intro member hmember
  have hnone : catalog.types.get? member.resource.typeId = none :=
    Registry.knows_eq_false.mp (by simpa using (List.mem_filter.mp hmember).2)
  simp only [Member.failure?, Registry.resolve, typeId_workingCopy, hnone,
    Generated.unknownFinding, id_workingCopy, Function.comp_apply]

/-- The nodes of unknown type fail with one report each, and the others as they do without them. -/
theorem interleaved_failures :
    Interleaved
      (((d.withoutUnknown catalog.types).working catalog).filterMap (·.failure? catalog.types
        (d.withoutUnknown catalog.types) ((d.withoutUnknown catalog.types).working catalog)))
      ((d.nodes.filter (!catalog.types.knows ·)).map fun node =>
        Generated.unknownFinding node (.unknownType node.typeId))
      ((d.working catalog).filterMap (·.failure? catalog.types d (d.working catalog))) := by
  rw [failures_known hcheck hrules hlocal, ← failures_unknown hcheck]
  exact Interleaved.filterMap_filter _ _ _

end Phases

end Diagram

/-- If its generators mind their own resource and its rules are for registered types, a catalog gives
the same configuration without the nodes of unknown type and the edges that end there, and the
findings are the same but for those about them. -/
theorem Diagram.compileConsistent_withoutUnknown {d : Diagram} {catalog : Catalog}
    (hcheck : d.check = .ok ()) (hrules : catalog.RulesKnown) (hlocal : catalog.Local) :
    (d.compileConsistent catalog).WrittenAlike
        ((d.withoutUnknown catalog.types).compileConsistent catalog) ∧
      Interleaved ((d.withoutUnknown catalog.types).compileConsistent catalog).findings
        (d.unknownFindings catalog.types) (d.compileConsistent catalog).findings := by
  constructor
  · have hsuccess : ∀ m ∈ d.successes catalog,
        (d.withoutUnknown catalog.types).generation catalog m = d.generation catalog m := by
      intro m hm
      obtain ⟨hmem, hsucceeds⟩ := List.mem_filter.mp hm
      obtain ⟨type, htype, _⟩ := d.exists_generate_eq catalog hsucceeds
      exact generation_withoutUnknown hcheck hrules hlocal hmem (by simp [Registry.knows, htype])
    apply writtenAlike_of_successes (φ := id)
    · rfl
    · rw [build_withoutUnknown hcheck hrules]
    · rw [successes_withoutUnknown hcheck hrules hlocal, List.map_id]
    · exact fun m hm => congrArg (·.declared) (hsuccess m hm)
    · exact fun m hm => congrArg (·.results) (hsuccess m hm)
  · have hbuild := congrArg Prod.snd (build_withoutUnknown hcheck hrules)
    have hproject : (d.withoutUnknown catalog.types).project = d.project := rfl
    rw [findings_compileConsistent, findings_compileConsistent, hproject, hbuild,
      filledFindings_withoutUnknown hcheck hrules, List.append_assoc, List.append_assoc,
      List.append_assoc, List.append_assoc, unknownFindings]
    have hmiddle := Interleaved.of_left (((d.connected catalog).filled catalog.types).flatMap (·.2)
      ++ (ProviderBlocks.build catalog d.project ((d.working catalog).map (·.resource))).2)
    have hlate := hmiddle.append (interleaved_failures hcheck hrules hlocal)
    rw [List.nil_append, List.append_assoc, List.append_assoc] at hlate
    exact (interleaved_connected hcheck hrules).append hlate

end Groundplan
