import Groundplan.Proofs.Alike
import Groundplan.Proofs.Dictionaries
import Groundplan.Proofs.Isolation

/-!
# Diagrams without blank values

What becomes of a compilation when all blank properties are taken out of the diagram. The working
copies look alike, so the findings and the providers stay the same; the rest is up to the generators.
-/

namespace Groundplan

/-- The resource without its blank properties. -/
def Resource.withoutBlanks (r : Resource) : Resource :=
  { r with properties := r.properties.filter (!·.isBlank) }

theorem Resource.property?_withoutBlanks (r : Resource) (key : String) :
    r.withoutBlanks.property? key = r.present? key :=
  Dictionary.get?_filter _ _ _

theorem Resource.alike_withoutBlanks (r : Resource) : r.Alike r.withoutBlanks where
  id_eq := rfl
  typeId_eq := rfl
  name_eq := rfl
  modes_eq := rfl
  present?_eq key := by
    rw [Resource.present?, Resource.present?, property?_withoutBlanks, Resource.present?,
      Option.filter_filter]
    simp

/-- The diagram without the blank properties of its nodes. -/
def Diagram.withoutBlanks (d : Diagram) : Diagram :=
  { d with nodes := d.nodes.map (·.withoutBlanks) }

theorem alike_assignIdentities (types : Registry) (naming : Naming) (taken : List String)
    (nodes : List Resource) :
    List.Forall₂ Member.Alike (assignIdentities types naming taken nodes)
      (assignIdentities types naming taken (nodes.map (·.withoutBlanks))) := by
  induction nodes generalizing taken with
  | nil => exact .nil
  | cons node nodes ih => exact .cons ⟨node.alike_withoutBlanks, rfl⟩ (ih _)

/-- Whether two generations declare the same and end in the same way, with as many results. -/
structure Generation.Alike {α : Type} (g h : Generation (List α)) : Prop where
  declared_eq : g.declared = h.declared
  outcome_eq : g.outcome.map (·.length) = h.outcome.map (·.length)

namespace Generation.Alike

variable {α : Type} {g h : Generation (List α)}

theorem refl (g : Generation (List α)) : g.Alike g := ⟨rfl, rfl⟩

theorem cases_outcome (hgh : g.Alike h) : (∃ e, g.outcome = .error e ∧ h.outcome = .error e) ∨
    ∃ items others, g.outcome = .ok items ∧ h.outcome = .ok others ∧
      items.length = others.length := by
  have houtcome := hgh.outcome_eq
  cases hg : g.outcome with
  | error e =>
    cases hh : h.outcome with
    | error e' =>
      rw [hg, hh] at houtcome
      cases houtcome
      exact .inl ⟨e, rfl, rfl⟩
    | ok others =>
      rw [hg, hh] at houtcome
      cases houtcome
  | ok items =>
    cases hh : h.outcome with
    | error e =>
      rw [hg, hh] at houtcome
      cases houtcome
    | ok others =>
      rw [hg, hh] at houtcome
      exact .inr ⟨items, others, rfl, rfl, Except.ok.inj houtcome⟩

theorem succeeds_eq (hgh : g.Alike h) : g.succeeds = h.succeeds := by
  unfold succeeds
  rcases hgh.cases_outcome with ⟨e, hg, hh⟩ | ⟨items, others, hg, hh, _⟩
  · rw [hg, hh]
  · rw [hg, hh]
    rfl

theorem length_results_eq (hgh : g.Alike h) : g.results.length = h.results.length := by
  rcases hgh.cases_outcome with ⟨e, hg, hh⟩ | ⟨items, others, hg, hh, hlength⟩
  · rw [results, results, hg, hh]
  · rw [results_of_ok hg, results_of_ok hh, hlength]

end Generation.Alike

section Lists

variable {α β : Type} {as bs : List α} {f g : α → List β}

theorem flatMap_filter_eq_of_forall₂ {p q : α → Bool}
    (h : List.Forall₂ (fun a b => p a = q b ∧ f a = g b) as bs) :
    (as.filter p).flatMap f = (bs.filter q).flatMap g := by
  induction h with
  | nil => rfl
  | cons hhead _ ih =>
    rw [List.filter_cons, List.filter_cons, hhead.1]
    split
    · rw [List.flatMap_cons, List.flatMap_cons, hhead.2, ih]
    · exact ih

theorem filterMap_eq_of_forall₂ {f g : α → Option β}
    (h : List.Forall₂ (fun a b => f a = g b) as bs) : as.filterMap f = bs.filterMap g := by
  induction h with
  | nil => rfl
  | cons hhead _ ih => rw [List.filterMap_cons, List.filterMap_cons, hhead, ih]

theorem flatMap_eq_iff_forall₂
    (h : List.Forall₂ (fun a b => (f a).length = (g b).length) as bs) :
    as.flatMap f = bs.flatMap g ↔ List.Forall₂ (fun a b => f a = g b) as bs := by
  induction h with
  | nil => simp
  | cons hhead _ ih =>
    rw [List.flatMap_cons, List.flatMap_cons, List.forall₂_cons, ← ih]
    constructor
    · intro heq
      exact List.append_inj heq hhead
    · rintro ⟨hfirst, hrest⟩
      rw [hfirst, hrest]

theorem forall₂_iff_forall {R : α → α → Prop} {P : α → Prop}
    (h : List.Forall₂ (fun a b => R a b ↔ P a) as bs) : List.Forall₂ R as bs ↔ ∀ a ∈ as, P a := by
  induction h with
  | nil => simp
  | cons hhead _ ih => rw [List.forall₂_cons, hhead, ih, List.forall_mem_cons]

theorem forall₂_and_mem {R : α → α → Prop} (h : List.Forall₂ R as bs) :
    List.Forall₂ (fun a b => R a b ∧ a ∈ as ∧ b ∈ bs) as bs :=
  List.forall₂_iff_zip.mpr ⟨h.length_eq, fun hzip =>
    ⟨List.forall₂_zip h hzip, List.of_mem_zip hzip⟩⟩

end Lists

namespace Diagram

variable (d : Diagram) (catalog : Catalog)

theorem check_withoutBlanks : d.withoutBlanks.check = d.check := by
  have hids : d.withoutBlanks.nodes.map (·.id) = d.nodes.map (·.id) := List.map_map
  unfold check
  rw [hids]
  rfl

theorem alike_connected :
    (d.connected catalog).Alike (d.withoutBlanks.connected catalog) :=
  alike_connectAll catalog.rules (alike_assignIdentities catalog.types d.naming [] d.nodes) d.edges

theorem alike_working :
    List.Forall₂ Member.Alike (d.working catalog) (d.withoutBlanks.working catalog) := by
  unfold working
  rw [List.forall₂_map_left_iff, List.forall₂_map_right_iff]
  exact ((d.alike_connected catalog).filled catalog.types).imp fun _ _ h => h.1

theorem alike_context {a b : Member} (h : a.Alike b) :
    (d.context catalog a).Alike b.resource.id (d.withoutBlanks.context catalog b) where
  identity_eq := h.identity_eq
  project_eq := rfl
  address?_eq := by
    unfold Context.address? context
    dsimp only
    rcases rel_cases (Member.rel_find? (d.alike_working catalog) b.resource.id) with
      ⟨hfirst, hsecond⟩ | ⟨_, _, hfirst, hsecond, hsame⟩
    · rw [hfirst, hsecond]
    · rw [hfirst, hsecond, Option.bind_some, Option.bind_some, hsame.identity_eq]

theorem providers_withoutBlanks :
    ProviderBlocks.build catalog d.project ((d.withoutBlanks.working catalog).map (·.resource)) =
      ProviderBlocks.build catalog d.project ((d.working catalog).map (·.resource)) := by
  apply Eq.symm
  apply ProviderBlocks.build_eq_of_alike
  rw [List.forall₂_map_left_iff, List.forall₂_map_right_iff]
  exact (d.alike_working catalog).imp fun _ _ h => h.resource

theorem earlyFindings_withoutBlanks :
    d.withoutBlanks.earlyFindings catalog = d.earlyFindings catalog := by
  have hconnected := d.alike_connected catalog
  have hpairs := (hconnected.filled catalog.types).imp fun _ _ h => h.2
  have hfilled : ((d.connected catalog).filled catalog.types).flatMap (·.2) =
      ((d.withoutBlanks.connected catalog).filled catalog.types).flatMap (·.2) :=
    (flatMap_eq_iff_forall₂ (hpairs.imp fun _ _ h => congrArg List.length h)).mpr hpairs
  unfold earlyFindings
  rw [← hfilled, ← hconnected.findings_eq]
  exact congrArg (_ ++ ·) (congrArg (·.2) (d.providers_withoutBlanks catalog))

section Generations

variable {d catalog}

variable (h : List.Forall₂ (fun a b => a.Alike b ∧
  (d.generation catalog a).Alike (d.withoutBlanks.generation catalog b)) (d.working catalog)
    (d.withoutBlanks.working catalog))

include h

theorem failures_withoutBlanks :
    (d.withoutBlanks.working catalog).filterMap (d.withoutBlanks.failure? catalog) =
      (d.working catalog).filterMap (d.failure? catalog) := by
  apply Eq.symm
  apply filterMap_eq_of_forall₂
  refine h.imp fun a b hab => ?_
  obtain ⟨hmember, hgeneration⟩ := hab
  unfold failure? Member.failure?
  rw [hmember.resource.typeId_eq]
  cases catalog.types.resolve b.resource.typeId with
  | error e => simp only [Generated.unknownFinding, hmember.resource.id_eq]
  | ok type =>
    dsimp only
    rcases hgeneration.cases_outcome with ⟨e, ha, hb⟩ | ⟨_, _, ha, hb, _⟩
    · unfold generation at ha hb
      rw [ha, hb]
      simp only [Generated.failedFinding, hmember.resource.id_eq]
    · unfold generation at ha hb
      rw [ha, hb]

theorem declared_withoutBlanks {α : Type} (select : Declaration → Option α) :
    ((d.withoutBlanks.successes catalog).flatMap fun m =>
        (d.withoutBlanks.generation catalog m).declared.filterMap select) =
      (d.successes catalog).flatMap fun m =>
        (d.generation catalog m).declared.filterMap select := by
  apply Eq.symm
  apply flatMap_filter_eq_of_forall₂
  exact h.imp fun a b hab => ⟨hab.2.succeeds_eq, by rw [hab.2.declared_eq]⟩

/-- If the generations look alike, no part of the configuration but the blocks of the resources has
changed. -/
theorem compileConsistent_withoutBlanks : d.withoutBlanks.compileConsistent catalog =
    { d.compileConsistent catalog with
      blocks := (d.withoutBlanks.compileConsistent catalog).blocks } := by
  have hproviders := d.providers_withoutBlanks catalog
  have hvariables : (d.withoutBlanks.compileConsistent catalog).variables =
      (d.compileConsistent catalog).variables := by
    rw [variables_compileConsistent, variables_compileConsistent, declared_withoutBlanks h]
  have houtputs : (d.withoutBlanks.compileConsistent catalog).outputs =
      (d.compileConsistent catalog).outputs := by
    rw [outputs_compileConsistent, outputs_compileConsistent, declared_withoutBlanks h]
  have hfindings : (d.withoutBlanks.compileConsistent catalog).findings =
      (d.compileConsistent catalog).findings := by
    rw [findings_eq, findings_eq, earlyFindings_withoutBlanks, failures_withoutBlanks h]
  have hvalues : (d.withoutBlanks.compileConsistent catalog).valueFile =
      (d.compileConsistent catalog).valueFile :=
    congrArg (Variable.valueFile? · d.project.variableValues) hvariables
  have hterraform : (d.withoutBlanks.compileConsistent catalog).terraform =
      (d.compileConsistent catalog).terraform :=
    congrArg (·.1.terraformBlock d.project) hproviders
  have hblocks : (d.withoutBlanks.compileConsistent catalog).providers =
      (d.compileConsistent catalog).providers :=
    congrArg (·.1.blocks) hproviders
  dsimp only
  rw [← hvariables, ← houtputs, ← hfindings, ← hvalues, ← hterraform, ← hblocks]
  rfl

/-- The blocks of the resources stay the same only if those of each resource do. -/
theorem blocks_withoutBlanks_iff : (d.withoutBlanks.compileConsistent catalog).blocks =
    (d.compileConsistent catalog).blocks ↔
      List.Forall₂ (fun a b => (d.generation catalog a).results =
        (d.withoutBlanks.generation catalog b).results) (d.working catalog)
          (d.withoutBlanks.working catalog) := by
  rw [blocks_eq_flatMap_working, blocks_eq_flatMap_working, eq_comm]
  exact flatMap_eq_iff_forall₂ (h.imp fun a b hab => hab.2.length_results_eq)

end Generations

end Diagram

end Groundplan
