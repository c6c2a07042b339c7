import Groundplan.Proofs.Generating
import Groundplan.Proofs.Kinds
import Groundplan.Proofs.WorkingCopies
import Mathlib.Data.List.Basic

/-!
# Failures stay apart

A resource for which generation fails costs the configuration its own blocks and declarations and
nothing else, and is reported by exactly one error. Only an inconsistent diagram has no configuration.
-/

namespace Groundplan

namespace Finding

/-- The errors about a resource. -/
def errorsAbout (id : String) (findings : List Finding) : List Finding :=
  findings.filter fun f => f.severity == .error && f.node == some id

/-- Whether no error is among the findings. -/
def Harmless (findings : List Finding) : Prop := ∀ f ∈ findings, f.severity ≠ .error

theorem OfKinds.harmless {kinds : List FindingKind} {findings : List Finding}
    (h : OfKinds kinds findings) (hkinds : ∀ kind ∈ kinds, kind.severity ≠ .error) :
    Harmless findings := by
  intro f hf
  obtain ⟨hkind, hseverity⟩ := h f hf
  exact hseverity ▸ hkinds f.kind hkind

theorem Harmless.append {first second : List Finding} (hf : Harmless first)
    (hs : Harmless second) : Harmless (first ++ second) := by
  intro f h
  rcases List.mem_append.mp h with h | h
  · exact hf f h
  · exact hs f h

theorem Harmless.hasErrors {findings : List Finding} (h : Harmless findings) :
    hasErrors findings = false := by
  rw [Finding.hasErrors, List.any_eq_false]
  intro f hf
  simpa using h f hf

theorem Harmless.errorsAbout {findings : List Finding} (h : Harmless findings) (id : String) :
    errorsAbout id findings = [] := by
  rw [Finding.errorsAbout, List.filter_eq_nil_iff]
  intro f hf
  simp [h f hf]

end Finding

namespace Diagram

variable (d : Diagram) (catalog : Catalog)

/-- All that is found before blocks are generated. -/
def earlyFindings : List Finding :=
  (d.connected catalog).findings ++ ((d.connected catalog).filled catalog.types).flatMap (·.2)
    ++ (ProviderBlocks.build catalog d.project ((d.working catalog).map (·.resource))).2

theorem harmless_earlyFindings : Finding.Harmless (d.earlyFindings catalog) :=
  (((ofKinds_connectAll _ _ _).harmless (by decide)).append
    ((Connecting.ofKinds_filled _ _).harmless (by decide))).append
    ((ProviderBlocks.ofKinds_build _ _ _).harmless (by decide))

/-- The report of a resource for which generation fails. -/
def failure? (member : Member) : Option Finding :=
  member.failure? catalog.types d (d.working catalog)

theorem findings_eq : (d.compileConsistent catalog).findings =
    d.earlyFindings catalog ++ (d.working catalog).filterMap (d.failure? catalog) :=
  d.findings_compileConsistent catalog

theorem failure?_eq_none_iff (member : Member) :
    d.failure? catalog member = none ↔ (d.generation catalog member).succeeds :=
  Member.failure?_eq_none_iff _ _ _ _

variable {d}

theorem errorsAbout_filterMap_failure? {members : List Member}
    (hn : (members.map (·.resource.id)).Nodup) {member : Member} (h : member ∈ members) :
    Finding.errorsAbout member.resource.id (members.filterMap (d.failure? catalog)) =
      (d.failure? catalog member).toList := by
  have hother : ∀ other : Member, other.resource.id ≠ member.resource.id →
      Finding.errorsAbout member.resource.id (d.failure? catalog other).toList = [] := by
    intro other hne
    cases hfailure : d.failure? catalog other with
    | none => rfl
    | some finding =>
      have hnode := (Member.failure?_eq_some _ _ _ hfailure).2
      simp [Finding.errorsAbout, hnode, hne]
  have hown : Finding.errorsAbout member.resource.id (d.failure? catalog member).toList =
      (d.failure? catalog member).toList := by
    cases hfailure : d.failure? catalog member with
    | none => rfl
    | some finding =>
      obtain ⟨hseverity, hnode⟩ := Member.failure?_eq_some _ _ _ hfailure
      simp [Finding.errorsAbout, hseverity, hnode]
  have hnone : ∀ rest : List Member, member.resource.id ∉ rest.map (·.resource.id) →
      Finding.errorsAbout member.resource.id (rest.filterMap (d.failure? catalog)) = [] := by
    intro rest hrest
    rw [Finding.errorsAbout, List.filter_eq_nil_iff]
    intro finding hfinding
    obtain ⟨other, hmem, hfailure⟩ := List.mem_filterMap.mp hfinding
    have hne : other.resource.id ≠ member.resource.id := fun heq =>
      hrest (List.mem_map.mpr ⟨other, hmem, heq⟩)
    have hnode := (Member.failure?_eq_some _ _ _ hfailure).2
    simp [hnode, hne]
  obtain ⟨before, after, rfl⟩ := List.append_of_mem h
  rw [List.map_append, List.map_cons] at hn
  obtain ⟨_, hafter, hbefore⟩ := List.nodup_append.mp hn
  have hsplit : ((before ++ member :: after).filterMap (d.failure? catalog)) =
      before.filterMap (d.failure? catalog) ++ ((d.failure? catalog member).toList ++
        after.filterMap (d.failure? catalog)) := by
    simp only [List.filterMap_eq_flatMap_toList, List.flatMap_append, List.flatMap_cons]
  have happend : ∀ first second : List Finding,
      Finding.errorsAbout member.resource.id (first ++ second) =
        Finding.errorsAbout member.resource.id first ++
          Finding.errorsAbout member.resource.id second := fun first second =>
    List.filter_append first second
  rw [hsplit, happend, happend, hown,
    hnone before fun hmem => hbefore _ hmem _ List.mem_cons_self rfl,
    hnone after (List.nodup_cons.mp hafter).1]
  simp

/-- A failed resource is reported by one error and a generated one by none. -/
theorem errorsAbout_findings (h : d.check = .ok ()) {member : Member}
    (hm : member ∈ d.working catalog) :
    Finding.errorsAbout member.resource.id (d.compileConsistent catalog).findings =
      (d.failure? catalog member).toList := by
  rw [findings_eq, Finding.errorsAbout, List.filter_append]
  have hearly := (d.harmless_earlyFindings catalog).errorsAbout member.resource.id
  have hlate := errorsAbout_filterMap_failure? (d := d) catalog (nodup_id_working catalog h) hm
  rw [Finding.errorsAbout] at hearly hlate
  rw [hearly, hlate, List.nil_append]

theorem hasErrors_compileConsistent_iff :
    (d.compileConsistent catalog).hasErrors = true ↔
      ∃ member ∈ d.working catalog, (d.generation catalog member).succeeds = false := by
  have hsome : ∀ member : Member, (d.generation catalog member).succeeds = false ↔
      ∃ finding, d.failure? catalog member = some finding := by
    intro member
    rw [← Option.ne_none_iff_exists', ne_eq, failure?_eq_none_iff, Bool.not_eq_true]
  rw [Compiled.hasErrors, findings_eq, Finding.hasErrors, List.any_append]
  have hearly := (d.harmless_earlyFindings catalog).hasErrors
  rw [Finding.hasErrors] at hearly
  rw [hearly, Bool.false_or, List.any_eq_true]
  constructor
  · rintro ⟨finding, hfinding, _⟩
    obtain ⟨member, hmember, hfailure⟩ := List.mem_filterMap.mp hfinding
    exact ⟨member, hmember, (hsome member).mpr ⟨finding, hfailure⟩⟩
  · rintro ⟨member, hmember, hfails⟩
    obtain ⟨finding, hfailure⟩ := (hsome member).mp hfails
    refine ⟨finding, List.mem_filterMap.mpr ⟨member, hmember, hfailure⟩, ?_⟩
    rw [(Member.failure?_eq_some _ _ _ hfailure).1]
    rfl

end Diagram

/-- Every diagram is either inconsistent, which is the only way to get no configuration, or has one
to which each resource contributes as if there were no failures beside it. -/
theorem compile_isolates_failures (d : Diagram) (catalog : Catalog) :
    ((∃ e, d.compile catalog = .error e) ↔ ¬(d.nodes.map (·.id)).Nodup ∨
      ∃ edge ∈ d.edges, edge.source ∉ d.nodes.map (·.id) ∨ edge.target ∉ d.nodes.map (·.id)) ∧
    ∀ c, d.compile catalog = .ok c →
      (d.working catalog).map (·.resource.id) = d.nodes.map (·.id) ∧
      c.blocks = (d.successes catalog).flatMap (fun m => (d.generation catalog m).results) ∧
      c.variables = firstNamed (·.name) ((d.successes catalog).flatMap fun m =>
        (d.generation catalog m).declared.filterMap (·.toVariable?)) ∧
      c.outputs = firstNamed (·.name) ((d.successes catalog).flatMap fun m =>
        (d.generation catalog m).declared.filterMap (·.toOutput?)) ∧
      (∀ m ∈ d.working catalog, (Finding.errorsAbout m.resource.id c.findings).length =
        if (d.generation catalog m).succeeds then 0 else 1) ∧
      (c.hasErrors = true ↔
        ∃ m ∈ d.working catalog, (d.generation catalog m).succeeds = false) := by
  constructor
  · have hinconsistent : (∃ e, d.compile catalog = .error e) ↔ ¬d.check = .ok () := by
      unfold Diagram.compile
      cases d.check <;> simp [Functor.map, Except.map]
    rw [hinconsistent, Diagram.check_eq_ok_iff, Classical.not_and_iff_not_or_not]
    simp only [Classical.not_forall, Classical.not_and_iff_not_or_not, exists_prop]
  · intro c hc
    obtain ⟨hcheck, rfl⟩ := Diagram.compile_eq_ok_iff.mp hc
    refine ⟨Diagram.map_id_working catalog hcheck, d.blocks_compileConsistent catalog,
      d.variables_compileConsistent catalog, d.outputs_compileConsistent catalog, ?_,
      Diagram.hasErrors_compileConsistent_iff catalog⟩
    intro m hm
    rw [Diagram.errorsAbout_findings catalog hcheck hm]
    by_cases hsucceeds : (d.generation catalog m).succeeds = true
    · rw [(d.failure?_eq_none_iff catalog m).mpr hsucceeds, if_pos hsucceeds]
      rfl
    · obtain ⟨finding, hfinding⟩ := Option.ne_none_iff_exists'.mp
        (mt (d.failure?_eq_none_iff catalog m).mp hsucceeds)
      rw [hfinding, if_neg hsucceeds]
      rfl

/-- A gauge declares its reading before it turns out whether it is broken. -/
def gaugeType : ResourceType where
  typeId := "plant/gauge"
  provider := "plant"
  terraformType := some "plant_gauge"
  generate := fun r c => do
    Generation.declareOutput
      { name := "reading", value := "plant_gauge." ++ c.label ++ ".reading", description := r.name }
    if r.property? "broken" = some (.bool true) then
      Generation.fail (.failed r.id "broken is set")
    else
      return [Block.resource "plant_gauge" c.label]

def gaugeCatalog : Catalog := { types := Registry.register .empty gaugeType }

/-- A broken gauge, a valve of unknown type, and a gauge that declares what the broken one did. -/
def gaugeDiagram : Diagram where
  nodes :=
    [{ id := "a", typeId := "plant/gauge", name := "inlet"
       properties := Dictionary.empty.insert "broken" (.bool true) },
     { id := "b", typeId := "plant/valve", name := "valve" },
     { id := "c", typeId := "plant/gauge", name := "outlet" }]

theorem compile_isolates_failures_gauges :
    ∃ c, gaugeDiagram.compile gaugeCatalog = .ok c ∧
      c.blocks.map (·.labels) = [["plant_gauge", "outlet"]] ∧
      c.outputs.map (·.value) = ["plant_gauge.outlet.reading"] ∧
      (["a", "b", "c"].map fun id => (Finding.errorsAbout id c.findings).length) = [1, 1, 0] ∧
      c.hasErrors = true := by
  have hc : gaugeDiagram.compile gaugeCatalog =
      .ok (gaugeDiagram.compileConsistent gaugeCatalog) := rfl
  obtain ⟨-, hblocks, -, houtputs, hfindings, herrors⟩ :=
    (compile_isolates_failures gaugeDiagram gaugeCatalog).2 _ hc
  let errors := fun id => (Finding.errorsAbout id
    (gaugeDiagram.compileConsistent gaugeCatalog).findings).length
  have ha : errors "a" = 1 := hfindings (gaugeDiagram.working gaugeCatalog)[0] List.mem_cons_self
  have hb : errors "b" = 1 := hfindings (gaugeDiagram.working gaugeCatalog)[1]
    (List.mem_cons_of_mem _ List.mem_cons_self)
  have hd : errors "c" = 0 := hfindings (gaugeDiagram.working gaugeCatalog)[2]
    (List.mem_cons_of_mem _ (List.mem_cons_of_mem _ List.mem_cons_self))
  refine ⟨_, hc, by rw [hblocks]; rfl, by rw [houtputs]; rfl, ?_, ?_⟩
  · show [errors "a", errors "b", errors "c"] = [1, 1, 0]
    rw [ha, hb, hd]
  · exact herrors.mpr ⟨(gaugeDiagram.working gaugeCatalog)[0], List.mem_cons_self, rfl⟩

end Groundplan
