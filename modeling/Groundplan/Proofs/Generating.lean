import Groundplan.Compile.Basic
import Groundplan.Proofs.Collecting

/-!
# Generating resource by resource

The generations of a compilation side by side: each is a function of its own resource and of what all
of them may look at. The run over the resources keeps the results and the declarations of those that
succeed, and a report of each of the others.
-/

namespace Groundplan

namespace Generation

variable {α : Type}

/-- Whether the generation ends with a result. -/
def succeeds (g : Generation α) : Bool := g.outcome.toBool

/-- What the generation results in; nothing if it fails. -/
def results (g : Generation (List α)) : List α := g.outcome.toOption.getD []

theorem succeeds_iff {g : Generation α} : g.succeeds = true ↔ ∃ a, g.outcome = .ok a := by
  unfold succeeds
  cases g.outcome <;> simp [Except.toBool]

theorem results_of_ok {g : Generation (List α)} {items : List α} (h : g.outcome = .ok items) :
    g.results = items := by
  simp [results, h, Except.toOption]

theorem results_of_not_succeeds {g : Generation (List α)} (h : g.succeeds = false) :
    g.results = [] := by
  unfold succeeds at h
  unfold results
  cases hg : g.outcome with
  | error e => rfl
  | ok items =>
    rw [hg] at h
    cases h

end Generation

/-- The generation of a member in the given company. One of unknown type fails at once. -/
def Member.generation (types : Registry) (d : Diagram) (members : List Member) (member : Member) :
    Generation (List Block) :=
  match types.resolve member.resource.typeId with
  | .error e => .fail e
  | .ok type => type.generate member.resource ⟨member.identity, members, d.naming, d.project⟩

def Member.failure? (types : Registry) (d : Diagram) (members : List Member) (member : Member) :
    Option Finding :=
  match types.resolve member.resource.typeId with
  | .error e => some (Generated.unknownFinding member.resource e)
  | .ok _ =>
    match (member.generation types d members).outcome with
    | .error e => some (Generated.failedFinding member.resource e)
    | .ok _ => none

/-- The generation of a resource in the compilation of a diagram. -/
def Diagram.generation (d : Diagram) (catalog : Catalog) (member : Member) :
    Generation (List Block) :=
  member.generation catalog.types d (d.working catalog)

/-- What the generator of a resource may look at. -/
def Diagram.context (d : Diagram) (catalog : Catalog) (member : Member) : Context :=
  ⟨member.identity, d.working catalog, d.naming, d.project⟩

/-- The resources of a diagram for which generation succeeds, in order. -/
def Diagram.successes (d : Diagram) (catalog : Catalog) : List Member :=
  (d.working catalog).filter fun member => (d.generation catalog member).succeeds

section Run

variable (types : Registry) (d : Diagram) (members : List Member)

theorem Member.failure?_eq_none_iff (member : Member) :
    member.failure? types d members = none ↔ (member.generation types d members).succeeds := by
  unfold Member.failure? Generation.succeeds Member.generation
  cases types.resolve member.resource.typeId with
  | error e => simp [Generation.fail, Except.toBool]
  | ok type =>
    dsimp only
    split <;> rename_i h <;> simp [h, Except.toBool]

theorem Member.failure?_eq_some {member : Member} {finding : Finding}
    (h : member.failure? types d members = some finding) :
    finding.severity = .error ∧ finding.node = some member.resource.id := by
  unfold Member.failure? at h
  split at h
  · cases h
    exact ⟨rfl, rfl⟩
  · split at h
    · cases h
      exact ⟨rfl, rfl⟩
    · cases h

/-- One step of the run: a success adds what it results in and what it declares, a failure only its
report. -/
theorem Generated.generate_eq (state : Generated) (member : Member) :
    Generated.generate types d members state member =
      if (member.generation types d members).succeeds then
        { state with
          blocks := state.blocks ++ (member.generation types d members).results
          declarations := state.declarations.addAll (member.generation types d members).declared }
      else
        { state with
          findings := state.findings ++ (member.failure? types d members).toList } := by
  unfold Generated.generate Member.failure? Member.generation
  cases types.resolve member.resource.typeId with
  | error e => simp [Generation.succeeds, Generation.fail, Except.toBool]
  | ok type =>
    dsimp only
    cases h : (type.generate member.resource ⟨member.identity, members, d.naming, d.project⟩).outcome with
    | error e => simp [Generation.succeeds, h, Except.toBool, Declarations.rollback_addAll]
    | ok blocks =>
      simp [Generation.succeeds, Generation.results, h, Except.toBool, Except.toOption]

theorem Generated.foldl_generate (state : Generated) (run : List Member) :
    run.foldl (Generated.generate types d members) state =
      let successes := run.filter fun member => (member.generation types d members).succeeds
      { blocks := state.blocks ++
          successes.flatMap fun member => (member.generation types d members).results
        declarations := state.declarations.addAll
          (successes.flatMap fun member => (member.generation types d members).declared)
        findings := state.findings ++ run.filterMap (·.failure? types d members) } := by
  induction run generalizing state with
  | nil => simp [Declarations.addAll]
  | cons member run ih =>
    rw [List.foldl_cons, ih, Generated.generate_eq]
    by_cases h : (member.generation types d members).succeeds = true
    · have hnone := (Member.failure?_eq_none_iff types d members member).mpr h
      simp [h, hnone, Declarations.addAll_append]
    · obtain ⟨finding, hfinding⟩ := Option.ne_none_iff_exists'.mp
        (mt (Member.failure?_eq_none_iff types d members member).mp h)
      simp [h, hfinding]

end Run

section Compiled

variable (d : Diagram) (catalog : Catalog)

theorem Diagram.generation_eq_generate {member : Member} {type : ResourceType}
    (h : catalog.types.get? member.resource.typeId = some type) :
    d.generation catalog member = type.generate member.resource (d.context catalog member) := by
  unfold generation Member.generation Registry.resolve
  rw [h]
  rfl

theorem Diagram.generation_eq_fail {member : Member}
    (h : catalog.types.get? member.resource.typeId = none) :
    d.generation catalog member = .fail (.unknownType member.resource.typeId) := by
  unfold generation Member.generation Registry.resolve
  rw [h]

theorem Diagram.exists_generate_eq {member : Member}
    (h : (d.generation catalog member).succeeds = true) :
    ∃ type, catalog.types.get? member.resource.typeId = some type ∧
      type.generate member.resource (d.context catalog member) =
        ⟨(d.generation catalog member).declared, .ok (d.generation catalog member).results⟩ := by
  obtain ⟨blocks, hblocks⟩ := Generation.succeeds_iff.mp h
  cases htype : catalog.types.get? member.resource.typeId with
  | none =>
    unfold generation Member.generation Registry.resolve at hblocks
    rw [htype] at hblocks
    cases hblocks
  | some type =>
    refine ⟨type, rfl, ?_⟩
    rw [Generation.results_of_ok hblocks, ← hblocks, d.generation_eq_generate catalog htype]

theorem Diagram.providers_compileConsistent :
    (d.compileConsistent catalog).providers =
      (ProviderBlocks.build catalog d.project ((d.working catalog).map (·.resource))).1.blocks := rfl

theorem Diagram.terraform_compileConsistent :
    (d.compileConsistent catalog).terraform =
      (ProviderBlocks.build catalog d.project
        ((d.working catalog).map (·.resource))).1.terraformBlock d.project := rfl

theorem Diagram.locals_compileConsistent :
    (d.compileConsistent catalog).locals = d.project.localsBlock? := rfl

theorem Diagram.blocks_compileConsistent :
    (d.compileConsistent catalog).blocks =
      (d.successes catalog).flatMap fun member => (d.generation catalog member).results := by
  show (Generated.generateAll catalog.types d (d.working catalog)).blocks = _
  rw [Generated.generateAll, Generated.foldl_generate]
  rfl

theorem Diagram.blocks_eq_flatMap_working :
    (d.compileConsistent catalog).blocks =
      (d.working catalog).flatMap fun member => (d.generation catalog member).results := by
  rw [blocks_compileConsistent, successes]
  induction d.working catalog with
  | nil => rfl
  | cons member rest ih =>
    rw [List.filter_cons, List.flatMap_cons, ← ih]
    split
    · rfl
    · rename_i hfails
      rw [Generation.results_of_not_succeeds (by simpa using hfails), List.nil_append]

theorem Diagram.variables_compileConsistent :
    (d.compileConsistent catalog).variables =
      firstNamed (·.name) ((d.successes catalog).flatMap fun member =>
        (d.generation catalog member).declared.filterMap (·.toVariable?)) := by
  show (Generated.generateAll catalog.types d (d.working catalog)).declarations.variables = _
  rw [Generated.generateAll, Generated.foldl_generate]
  show (Declarations.addAll {} _).variables = _
  rw [Declarations.variables_addAll_empty, List.filterMap_flatMap]
  rfl

theorem Diagram.outputs_compileConsistent :
    (d.compileConsistent catalog).outputs =
      firstNamed (·.name) ((d.successes catalog).flatMap fun member =>
        (d.generation catalog member).declared.filterMap (·.toOutput?)) := by
  show (Generated.generateAll catalog.types d (d.working catalog)).declarations.outputs = _
  rw [Generated.generateAll, Generated.foldl_generate]
  show (Declarations.addAll {} _).outputs = _
  rw [Declarations.outputs_addAll_empty, List.filterMap_flatMap]
  rfl

theorem Diagram.findings_compileConsistent :
    (d.compileConsistent catalog).findings =
      (d.connected catalog).findings ++ ((d.connected catalog).filled catalog.types).flatMap (·.2)
        ++ (ProviderBlocks.build catalog d.project ((d.working catalog).map (·.resource))).2
        ++ (d.working catalog).filterMap (·.failure? catalog.types d (d.working catalog)) := by
  show _ ++ (Generated.generateAll catalog.types d (d.working catalog)).findings = _
  rw [Generated.generateAll, Generated.foldl_generate]
  rfl

end Compiled

end Groundplan
