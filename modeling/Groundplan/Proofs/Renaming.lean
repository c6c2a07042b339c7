import Groundplan.Proofs.Agreement
import Groundplan.Proofs.Alike
import Groundplan.Proofs.Course
import Groundplan.Proofs.Providing
import Mathlib.Data.List.Forall2

/-!
# Renaming

Ids tell nodes and edges apart and serve nothing else. When all of them are renamed, and nodes that
were different stay so, each step of a compilation comes to the same as before under the new names.
-/

namespace Groundplan

section Definitions

variable (f g : String → String)

def Resource.rename (r : Resource) : Resource := { r with id := f r.id }

def Member.rename (m : Member) : Member := { m with resource := m.resource.rename f }

def Edge.rename (edge : Edge) : Edge :=
  { edge with id := g edge.id, source := f edge.source, target := f edge.target }

/-- The diagram with nodes renamed by one function and edges by another. -/
def Diagram.rename (d : Diagram) : Diagram :=
  { d with nodes := d.nodes.map (·.rename f), edges := d.edges.map (·.rename f g) }

def Writing.rename (w : Writing) : Writing := { w with receiver := f w.receiver }

def Inconsistency.rename : Inconsistency → Inconsistency
  | .duplicateNode id => .duplicateNode (f id)
  | .danglingEdge edge node => .danglingEdge (g edge) (f node)

def ResourceError.rename : ResourceError → ResourceError
  | .unknownType typeId => .unknownType typeId
  | .missingProperty node key => .missingProperty (f node) key
  | .invalidProperty node key expected => .invalidProperty (f node) key expected
  | .failed node message => .failed (f node) message
  | .unresolvedReference node => .unresolvedReference (f node)

/-- The finding about the renamed node and edge. Its message stays as it is. -/
def Finding.rename (finding : Finding) : Finding :=
  { finding with node := finding.node.map f, edge := finding.edge.map g }

def Settling.rename (state : Settling) : Settling :=
  { state with findings := state.findings.map (·.rename f g) }

def Context.rename (c : Context) : Context := { c with members := c.members.map (·.rename f) }

def Generation.rename {α : Type} (x : Generation α) : Generation α :=
  { x with outcome := x.outcome.mapError (·.rename f) }

/-- Whether one finding is what the other becomes by a renaming, the message apart: a message may
name the node. -/
structure Finding.Corresponds (a b : Finding) : Prop where
  kind_eq : b.kind = a.kind
  severity_eq : b.severity = a.severity
  node_eq : b.node = a.node.map f
  edge_eq : b.edge = a.edge.map g

/-- Whether the generators of a catalog do the same for renamed resources, under the new names. -/
def Catalog.Equivariant (catalog : Catalog) : Prop :=
  ∀ typeId type, catalog.types.get? typeId = some type → ∀ (r : Resource) (c : Context),
    type.generate (r.rename f) (c.rename f) = (type.generate r c).rename f

end Definitions

variable {f g : String → String}

theorem Finding.corresponds_rename (finding : Finding) :
    finding.Corresponds f g (finding.rename f g) := ⟨rfl, rfl, rfl, rfl⟩

theorem Finding.forall₂_corresponds_map (findings : List Finding) :
    List.Forall₂ (Corresponds f g) findings (findings.map (·.rename f g)) := by
  rw [List.forall₂_map_right_iff, List.forall₂_same]
  exact fun finding _ => finding.corresponds_rename

section Injective

variable (hf : Function.Injective f)

include hf

theorem contains_map_of_injective (ids : List String) (id : String) :
    (ids.map f).contains (f id) = ids.contains id := by
  rw [List.contains_map, List.contains_eq_any_beq]
  simp only [hf.beq_eq]

namespace Diagram

theorem firstRepeated_rename (seen ids : List String) :
    firstRepeated (seen.map f) (ids.map f) = (firstRepeated seen ids).map f := by
  induction ids generalizing seen with
  | nil => rfl
  | cons id ids ih =>
    have hrest := ih (id :: seen)
    rw [List.map_cons] at hrest
    rw [List.map_cons, firstRepeated, firstRepeated, contains_map_of_injective hf, hrest]
    split <;> rfl

theorem danglingEnd_rename (ids : List String) (edge : Edge) :
    danglingEnd (ids.map f) (edge.rename f g) = (danglingEnd ids edge).map f := by
  have hends : [(edge.rename f g).source, (edge.rename f g).target] =
      [edge.source, edge.target].map f := rfl
  rw [danglingEnd, danglingEnd, hends, List.find?_map]
  simp only [Function.comp_def, contains_map_of_injective hf]

theorem check_rename (d : Diagram) :
    (d.rename f g).check = d.check.mapError (·.rename f g) := by
  have hids : (d.rename f g).nodes.map (·.id) = (d.nodes.map (·.id)).map f := by
    simp [rename, Resource.rename]
  have hedges : (d.rename f g).edges = d.edges.map (·.rename f g) := rfl
  have hrepeated : firstRepeated [] ((d.nodes.map (·.id)).map f) =
      (firstRepeated [] (d.nodes.map (·.id))).map f := firstRepeated_rename hf [] _
  have hdangling : ∀ ids, ((d.edges.map (·.rename f g)).findSome? fun edge =>
      (danglingEnd (ids.map f) edge).map (edge.id, ·)) =
        (d.edges.findSome? fun edge => (danglingEnd ids edge).map (edge.id, ·)).map
          fun fault => (g fault.1, f fault.2) := by
    intro ids
    rw [List.findSome?_map, List.map_findSome?]
    congr 1
    funext edge
    simp only [Function.comp_apply, danglingEnd_rename hf, Option.map_map, Function.comp_def]
    rfl
  unfold check
  dsimp only
  rw [hids, hedges, hrepeated, hdangling]
  cases firstRepeated [] (d.nodes.map (·.id)) with
  | some id => rfl
  | none =>
    cases d.edges.findSome? fun edge =>
        (danglingEnd (d.nodes.map (·.id)) edge).map (edge.id, ·) with
    | some fault => rfl
    | none => rfl

end Diagram

theorem Member.find?_rename (members : List Member) (id : String) :
    find? (members.map (·.rename f)) (f id) = (find? members id).map (·.rename f) := by
  have hsame : ((·.resource.id == f id) ∘ (·.rename f)) =
      fun member : Member => member.resource.id == id :=
    funext fun member => hf.beq_eq
  rw [find?, find?, List.find?_map, hsame]

end Injective

theorem assignIdentities_rename (types : Registry) (naming : Naming) (taken : List String)
    (nodes : List Resource) : assignIdentities types naming taken (nodes.map (·.rename f)) =
      (assignIdentities types naming taken nodes).map (·.rename f) := by
  induction nodes generalizing taken with
  | nil => rfl
  | cons node nodes ih => exact congrArg (_ :: ·) (ih _)

theorem Diagram.members_rename (d : Diagram) (types : Registry) :
    (d.rename f g).members types = (d.members types).map (·.rename f) :=
  assignIdentities_rename types d.naming [] d.nodes

theorem ReferenceDirective.writing_rename (directive : ReferenceDirective) (source target : Member) :
    directive.writing (source.rename f) (target.rename f) =
      (directive.writing source target).rename f := by
  unfold writing
  cases directive.side <;> rfl

theorem Resolution.findings_rename (r : Resolution) (edge : Edge) (endpoints : Endpoints) :
    r.findings (edge.rename f g) endpoints = (r.findings edge endpoints).map (·.rename f g) := by
  cases r <;> rfl

theorem Member.receive_rename (hf : Function.Injective f) (member : Member) (w : Writing) :
    (member.rename f).receive (w.rename f) = (member.receive w).rename f := by
  have hreceiver : ((member.rename f).resource.id == (w.rename f).receiver) =
      (member.resource.id == w.receiver) := hf.beq_eq
  unfold receive
  rw [hreceiver]
  split <;> rfl

theorem Member.foldl_receive_rename (hf : Function.Injective f) (writings : List Writing)
    (member : Member) : (writings.map (·.rename f)).foldl receive (member.rename f) =
      (writings.foldl receive member).rename f := by
  induction writings generalizing member with
  | nil => rfl
  | cons w writings ih => rw [List.map_cons, List.foldl_cons, receive_rename hf, ih, List.foldl_cons]

namespace Edge

variable (hf : Function.Injective f) (rules : List Rule) (members : List Member) (edge : Edge)

include hf

theorem find?_ends_rename :
    Member.find? (members.map (·.rename f)) (edge.rename f g).source =
        (Member.find? members edge.source).map (·.rename f) ∧
      Member.find? (members.map (·.rename f)) (edge.rename f g).target =
        (Member.find? members edge.target).map (·.rename f) :=
  ⟨Member.find?_rename hf members edge.source, Member.find?_rename hf members edge.target⟩

theorem writing?_rename : (edge.rename f g).writing? rules (members.map (·.rename f)) =
    (edge.writing? rules members).map (·.rename f) := by
  obtain ⟨hsource, htarget⟩ := find?_ends_rename (g := g) hf members edge
  rw [writing?, writing?, hsource, htarget]
  cases Member.find? members edge.source with
  | none => rfl
  | some source =>
    cases Member.find? members edge.target with
    | none => rfl
    | some target =>
      simp only [Option.map_some, ReferenceDirective.writing_rename, Option.map_map]
      rfl

theorem resolutionFindings_rename :
    (edge.rename f g).resolutionFindings rules (members.map (·.rename f)) =
      (edge.resolutionFindings rules members).map (·.rename f g) := by
  obtain ⟨hsource, htarget⟩ := find?_ends_rename (g := g) hf members edge
  rw [resolutionFindings, resolutionFindings, hsource, htarget]
  cases Member.find? members edge.source with
  | none => rfl
  | some source =>
    cases Member.find? members edge.target with
    | none => rfl
    | some target => exact Resolution.findings_rename _ edge _

end Edge

section Course

variable (hf : Function.Injective f) {start renamedStart : Values}
  (hstart : ∀ id key, renamedStart (f id) key = start id key)

include hf

theorem lastWriting?_rename (writings : List Writing) (id key : String) :
    lastWriting? (writings.map (·.rename f)) (f id) key =
      (lastWriting? writings id key).map (·.rename f) := by
  have hsame : ((fun w : Writing => w.receiver == f id && w.key == key) ∘ (·.rename f)) =
      fun w : Writing => w.receiver == id && w.key == key := by
    funext w
    exact congrArg (· && w.key == key) hf.beq_eq
  rw [lastWriting?, lastWriting?, ← List.map_reverse, List.find?_map, hsame]

theorem Member.values_rename (members : List Member) (id key : String) :
    values (members.map (·.rename f)) (f id) key = values members id key := by
  rw [values, values, find?_rename hf]
  cases find? members id <;> rfl

include hstart

theorem Values.after_rename (writings : List Writing) (id key : String) :
    renamedStart.after (writings.map (·.rename f)) (f id) key = start.after writings id key := by
  rw [after, after, lastWriting?_rename hf, hstart]
  cases lastWriting? writings id key <;> rfl

theorem Writing.rel_loss? (before : List Writing) (edge : Edge) (w : Writing) :
    Option.Rel (Finding.Corresponds f g) (w.loss? start before edge)
      ((w.rename f).loss? renamedStart (before.map (·.rename f)) (edge.rename f g)) := by
  have hprevious : renamedStart.after (before.map (·.rename f)) (w.rename f).receiver
      (w.rename f).key = start.after before w.receiver w.key :=
    Values.after_rename hf hstart before w.receiver w.key
  have hvalue : (w.rename f).value = w.value := rfl
  rw [loss?, loss?, hprevious]
  cases start.after before w.receiver w.key with
  | none => exact .none
  | some previous =>
    simp only [Option.bind_eq_bind, Option.bind_some, hvalue]
    split
    · exact .none
    · exact .some ⟨rfl, rfl, rfl, rfl⟩

/-- What is found about renamed edges corresponds, edge by edge. -/
theorem forall₂_courseFindings {resolution renamedResolution : Edge → List Finding}
    {inject? renamedInject? : Edge → Option Writing}
    (hresolution : ∀ edge, renamedResolution (edge.rename f g) =
      (resolution edge).map (·.rename f g))
    (hinject : ∀ edge, renamedInject? (edge.rename f g) = (inject? edge).map (·.rename f))
    (before : List Writing) (edges : List Edge) :
    List.Forall₂ (Finding.Corresponds f g) (courseFindings start resolution inject? before edges)
      (courseFindings renamedStart renamedResolution renamedInject? (before.map (·.rename f))
        (edges.map (·.rename f g))) := by
  induction edges generalizing before with
  | nil => exact .nil
  | cons edge edges ih =>
    rw [List.map_cons, courseFindings, courseFindings, hresolution, hinject]
    refine List.rel_append (List.rel_append (Finding.forall₂_corresponds_map _) ?_) ?_
    · cases inject? edge with
      | none => exact .nil
      | some w =>
        have hloss := Writing.rel_loss? (g := g) hf hstart before edge w
        rw [Option.map_some, Option.bind_some, Option.bind_some]
        rcases rel_cases hloss with ⟨hnone, hother⟩ | ⟨loss, other, hsome, hother, h⟩
        · rw [hnone, hother]
          exact .nil
        · rw [hsome, hother]
          exact .cons h .nil
    · have hbefore : before.map (·.rename f) ++ ((inject? edge).map (·.rename f)).toList =
          (before ++ (inject? edge).toList).map (·.rename f) := by
        rw [List.map_append]
        cases inject? edge <;> rfl
      rw [hbefore]
      exact ih _

end Course

section Defaults

theorem PropertySchema.fill_rename (s : PropertySchema) (r : Resource) :
    s.fill (r.rename f) = ((s.fill r).1.rename f, (s.fill r).2.map (·.rename f g)) := by
  have hpresent : (r.rename f).present? s.key = r.present? s.key := rfl
  unfold fill
  rw [hpresent]
  cases r.present? s.key with
  | some value => rfl
  | none =>
    cases s.default with
    | some value => rfl
    | none => cases s.required <;> rfl

theorem fillDefaults_rename (schema : List PropertySchema) (r : Resource) :
    fillDefaults schema (r.rename f) =
      ((fillDefaults schema r).1.rename f, (fillDefaults schema r).2.map (·.rename f g)) := by
  induction schema generalizing r with
  | nil => rfl
  | cons s schema ih =>
    simp only [fillDefaults, s.fill_rename (g := g), ih, List.map_append]

theorem Member.withDefaults_rename (types : Registry) (member : Member) :
    (member.rename f).withDefaults types = ((member.withDefaults types).1.rename f,
      (member.withDefaults types).2.map (·.rename f g)) := by
  have htype : (member.rename f).resource.typeId = member.resource.typeId := rfl
  unfold withDefaults
  rw [htype]
  cases types.get? member.resource.typeId with
  | none => rfl
  | some type =>
    have hfilled := fillDefaults_rename (f := f) (g := g) type.schema member.resource
    have hresource : (member.rename f).resource = member.resource.rename f := rfl
    dsimp only
    rw [hresource, hfilled]
    rfl

end Defaults

section Providers

theorem Provider.map_rename_distinct (seen : List String) (providers : List Provider) :
    (distinct seen providers).2.map (·.rename f g) = (distinct seen providers).2 := by
  induction providers generalizing seen with
  | nil => rfl
  | cons p rest ih =>
    rw [distinct]
    split
    · exact congrArg (_ :: ·) (ih seen)
    · exact ih (p.id :: seen)

theorem Settling.supply_rename (provider : String) (r : Resource) (state : Settling)
    (key : String) : supply provider (r.rename f) (state.rename f g) key =
      (supply provider r state key).rename f g := by
  have hpresent : (r.rename f).present? key = r.present? key := rfl
  have hsettings : (state.rename f g).settings = state.settings := rfl
  have hsupplied : (state.rename f g).supplied = state.supplied := rfl
  unfold supply
  rw [hpresent, hsettings, hsupplied]
  cases state.settings.get? provider with
  | none => rfl
  | some settings =>
    cases r.present? key with
    | none => rfl
    | some value =>
      dsimp only
      split
      · simp only [rename, List.map_append]
        rfl
      · rfl

theorem Settling.supplyAll_rename (types : Registry) (state : Settling) (r : Resource) :
    supplyAll types (state.rename f g) (r.rename f) = (supplyAll types state r).rename f g := by
  have htype : (r.rename f).typeId = r.typeId := rfl
  unfold supplyAll
  rw [htype]
  cases types.get? r.typeId with
  | none => rfl
  | some type =>
    dsimp only
    induction type.providerProperties generalizing state with
    | nil => rfl
    | cons key keys ih => rw [List.foldl_cons, List.foldl_cons, supply_rename, ih]

theorem Settling.foldl_supplyAll_rename (types : Registry) (resources : List Resource)
    (state : Settling) :
    (resources.map (·.rename f)).foldl (supplyAll types) (state.rename f g) =
      (resources.foldl (supplyAll types) state).rename f g := by
  induction resources generalizing state with
  | nil => rfl
  | cons r rest ih => rw [List.map_cons, List.foldl_cons, supplyAll_rename, ih, List.foldl_cons]

theorem ProviderBlocks.build_rename (catalog : Catalog) (project : Project)
    (resources : List Resource) : build catalog project (resources.map (·.rename f)) =
      ((build catalog project resources).1,
        (build catalog project resources).2.map (·.rename f g)) := by
  have hactive : catalog.active (resources.map (·.rename f)) = catalog.active resources := by
    rw [Catalog.active, List.filterMap_map]
    rfl
  have hsettled : catalog.settled project (resources.map (·.rename f)) =
      (catalog.settled project resources).rename f g := by
    rw [Catalog.settled, Catalog.settled, hactive]
    exact Settling.foldl_supplyAll_rename catalog.types resources
      { settings := Dictionary.ofList
          ((catalog.active resources).map fun p => (p.id, p.baseSettings project)) }
  apply Prod.ext
  · rw [build_fst, build_fst, hactive, hsettled]
    rfl
  · rw [build_snd, build_snd, hsettled, List.map_append, Provider.map_rename_distinct]
    rfl

end Providers

namespace Generation

theorem succeeds_rename {α : Type} (x : Generation α) : (x.rename f).succeeds = x.succeeds := by
  unfold succeeds rename
  cases x.outcome <;> rfl

theorem results_rename {α : Type} (x : Generation (List α)) : (x.rename f).results = x.results := by
  unfold results rename
  cases x.outcome <;> rfl

end Generation

namespace Diagram

variable {d : Diagram} {catalog : Catalog} (hf : Function.Injective f) (hcheck : d.check = .ok ())

include hf

theorem writings_rename (d : Diagram) (catalog : Catalog) :
    (d.rename f g).writings catalog = (d.writings catalog).map (·.rename f) := by
  have hedges : (d.rename f g).edges = d.edges.map (·.rename f g) := rfl
  rw [writings, writings, members_rename, hedges, List.filterMap_map, List.map_filterMap]
  exact congrArg (d.edges.filterMap ·) (funext fun edge => edge.writing?_rename hf _ _)

theorem workingCopy_rename (d : Diagram) (catalog : Catalog) (member : Member) :
    (d.rename f g).workingCopy catalog (member.rename f) =
      (d.workingCopy catalog member).rename f := by
  rw [workingCopy, writings_rename hf, Member.foldl_receive_rename hf,
    Member.withDefaults_rename (g := g)]
  rfl

include hcheck

theorem check_rename_of_ok : (d.rename f g).check = .ok () := by
  rw [check_rename hf, hcheck]
  rfl

theorem working_rename : (d.rename f g).working catalog = (d.working catalog).map (·.rename f) := by
  rw [working_eq catalog hcheck, working_eq catalog (check_rename_of_ok hf hcheck), members_rename,
    List.map_map, List.map_map]
  exact List.map_congr_left fun member _ => workingCopy_rename hf d catalog member

theorem forall₂_connected : List.Forall₂ (Finding.Corresponds f g) (d.connected catalog).findings
    ((d.rename f g).connected catalog).findings := by
  rw [connected, connected, findings_connectAll _ (nodup_id_members catalog hcheck),
    findings_connectAll _ (nodup_id_members catalog (check_rename_of_ok hf hcheck)), members_rename]
  exact forall₂_courseFindings hf (Member.values_rename hf _)
    (fun edge => edge.resolutionFindings_rename hf _ _) (fun edge => edge.writing?_rename hf _ _) []
    d.edges

theorem filledFindings_rename :
    (((d.rename f g).connected catalog).filled catalog.types).flatMap (·.2) =
      (((d.connected catalog).filled catalog.types).flatMap (·.2)).map (·.rename f g) := by
  rw [Connecting.filled, Connecting.filled, members_connected hcheck,
    members_connected (check_rename_of_ok hf hcheck), members_rename, writings_rename hf,
    List.map_flatMap, List.map_map, List.map_map, List.map_map, List.flatMap_map, List.flatMap_map]
  apply List.flatMap_congr
  intro member _
  simp only [Function.comp_apply, Member.foldl_receive_rename hf,
    Member.withDefaults_rename (g := g)]

theorem build_working_rename :
    ProviderBlocks.build catalog d.project (((d.rename f g).working catalog).map (·.resource)) =
      ((ProviderBlocks.build catalog d.project ((d.working catalog).map (·.resource))).1,
        (ProviderBlocks.build catalog d.project
          ((d.working catalog).map (·.resource))).2.map (·.rename f g)) := by
  have hresources : ((d.rename f g).working catalog).map (·.resource) =
      ((d.working catalog).map (·.resource)).map (·.rename f) := by
    rw [working_rename hf hcheck, List.map_map, List.map_map]
    rfl
  rw [hresources, ProviderBlocks.build_rename (g := g)]

variable (hcatalog : catalog.Equivariant f)

include hcatalog

/-- What is generated for a renamed node is the same, its errors being about the new name. -/
theorem generation_rename (m : Member) : (d.rename f g).generation catalog (m.rename f) =
    (d.generation catalog m).rename f := by
  have htypeId : (m.rename f).resource.typeId = m.resource.typeId := rfl
  have hcontext : (d.rename f g).context catalog (m.rename f) =
      (d.context catalog m).rename f := by
    rw [context, working_rename hf hcheck]
    rfl
  cases htype : catalog.types.get? m.resource.typeId with
  | none =>
    rw [generation_eq_fail _ catalog (htypeId ▸ htype), generation_eq_fail _ catalog htype]
    rfl
  | some type =>
    rw [generation_eq_generate _ catalog (htypeId ▸ htype), generation_eq_generate _ catalog htype,
      hcontext]
    exact hcatalog _ type htype m.resource _

theorem successes_rename :
    (d.rename f g).successes catalog = (d.successes catalog).map (·.rename f) := by
  rw [successes, successes, working_rename hf hcheck, List.filter_map]
  refine congrArg _ (List.filter_congr fun m _ => ?_)
  rw [Function.comp_apply, generation_rename hf hcheck hcatalog, Generation.succeeds_rename]

theorem rel_failure? (m : Member) : Option.Rel (Finding.Corresponds f g)
    (m.failure? catalog.types d (d.working catalog))
    ((m.rename f).failure? catalog.types (d.rename f g) ((d.rename f g).working catalog)) := by
  have htypeId : (m.rename f).resource.typeId = m.resource.typeId := rfl
  have hgeneration := generation_rename (g := g) hf hcheck hcatalog m
  rw [generation, generation] at hgeneration
  unfold Member.failure?
  rw [htypeId, hgeneration]
  cases catalog.types.resolve m.resource.typeId with
  | error e => exact .some ⟨rfl, rfl, rfl, rfl⟩
  | ok type =>
    dsimp only [Generation.rename]
    cases (m.generation catalog.types d (d.working catalog)).outcome with
    | error e => exact .some ⟨rfl, rfl, rfl, rfl⟩
    | ok blocks => exact .none

theorem writtenAlike_rename :
    (d.compileConsistent catalog).WrittenAlike ((d.rename f g).compileConsistent catalog) := by
  apply writtenAlike_of_successes (φ := Member.rename f)
  · rfl
  · rw [build_working_rename hf hcheck]
  · exact successes_rename hf hcheck hcatalog
  · intro m _
    rw [generation_rename hf hcheck hcatalog]
    rfl
  · intro m _
    rw [generation_rename hf hcheck hcatalog, Generation.results_rename]

/-- All that is found corresponds, one by one. -/
theorem forall₂_findings_rename : List.Forall₂ (Finding.Corresponds f g)
    (d.compileConsistent catalog).findings ((d.rename f g).compileConsistent catalog).findings := by
  have hmembers : List.Forall₂ (fun m renamed : Member => renamed = m.rename f) (d.working catalog)
      ((d.rename f g).working catalog) := by
    rw [working_rename hf hcheck, List.forall₂_map_right_iff, List.forall₂_same]
    exact fun _ _ => rfl
  have hfailures : List.Forall₂ (Finding.Corresponds f g)
      ((d.working catalog).filterMap (·.failure? catalog.types d (d.working catalog)))
      (((d.rename f g).working catalog).filterMap
        (·.failure? catalog.types (d.rename f g) ((d.rename f g).working catalog))) :=
    List.rel_filterMap (fun m renamed hrenamed => hrenamed ▸ rel_failure? hf hcheck hcatalog m)
      hmembers
  have hproject : (d.rename f g).project = d.project := rfl
  rw [findings_compileConsistent, findings_compileConsistent, hproject,
    filledFindings_rename hf hcheck, build_working_rename hf hcheck]
  exact List.rel_append (List.rel_append (List.rel_append (forall₂_connected hf hcheck)
    (Finding.forall₂_corresponds_map _)) (Finding.forall₂_corresponds_map _)) hfailures

end Diagram

/-- A renamed diagram has the fault of the original one, or the same configuration with findings that
correspond. -/
theorem Diagram.compile_rename (d : Diagram) {catalog : Catalog} (hf : Function.Injective f)
    (hcatalog : catalog.Equivariant f) :
    (∃ e, d.compile catalog = .error e ∧
      (d.rename f g).compile catalog = .error (e.rename f g)) ∨
    ∃ c renamed, d.compile catalog = .ok c ∧ (d.rename f g).compile catalog = .ok renamed ∧
      c.WrittenAlike renamed ∧
      List.Forall₂ (Finding.Corresponds f g) c.findings renamed.findings := by
  cases hcheck : d.check with
  | error e =>
    refine .inl ⟨e, ?_, ?_⟩
    · rw [compile, hcheck]
      rfl
    · rw [compile, check_rename hf, hcheck]
      rfl
  | ok _ =>
    exact .inr ⟨_, _, compile_eq_ok_iff.mpr ⟨hcheck, rfl⟩,
      compile_eq_ok_iff.mpr ⟨check_rename_of_ok hf hcheck, rfl⟩,
      writtenAlike_rename hf hcheck hcatalog, forall₂_findings_rename hf hcheck hcatalog⟩

end Groundplan
