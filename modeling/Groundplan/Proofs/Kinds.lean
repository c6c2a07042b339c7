import Groundplan.Proofs.Generating

/-!
# Kinds of findings

Each step of a compilation reports findings of its own kinds only, and with the severity that goes
with the kind.
-/

namespace Groundplan

namespace Finding

/-- Whether findings are of the given kinds, each with the severity of its kind. -/
def OfKinds (kinds : List FindingKind) (findings : List Finding) : Prop :=
  ∀ f ∈ findings, f.kind ∈ kinds ∧ f.severity = f.kind.severity

namespace OfKinds

variable {kinds : List FindingKind} {first second findings : List Finding}

theorem nil : OfKinds kinds [] := fun _ h => absurd h List.not_mem_nil

theorem singleton {f : Finding} (hkind : f.kind ∈ kinds) (hseverity : f.severity = f.kind.severity) :
    OfKinds kinds [f] := by
  intro other hother
  rw [List.mem_singleton.mp hother]
  exact ⟨hkind, hseverity⟩

theorem append (hf : OfKinds kinds first) (hs : OfKinds kinds second) :
    OfKinds kinds (first ++ second) := by
  intro f h
  rcases List.mem_append.mp h with h | h
  · exact hf f h
  · exact hs f h

theorem mono {others : List FindingKind} (h : OfKinds kinds findings) (hsubset : kinds ⊆ others) :
    OfKinds others findings :=
  fun f hf => ⟨hsubset (h f hf).1, (h f hf).2⟩

theorem flatMap {α : Type} {items : List α} {f : α → List Finding}
    (h : ∀ a ∈ items, OfKinds kinds (f a)) : OfKinds kinds (items.flatMap f) := by
  intro finding hfinding
  obtain ⟨a, ha, hmem⟩ := List.mem_flatMap.mp hfinding
  exact h a ha finding hmem

theorem ofKind_eq_nil (h : OfKinds kinds findings) (kind : FindingKind) (hkind : kind ∉ kinds) :
    ofKind kind findings = [] := by
  rw [ofKind, List.filter_eq_nil_iff]
  intro f hf heq
  exact hkind (beq_iff_eq.mp heq ▸ (h f hf).1)

end OfKinds

@[simp] theorem ofKind_append (kind : FindingKind) (first second : List Finding) :
    ofKind kind (first ++ second) = ofKind kind first ++ ofKind kind second :=
  List.filter_append first second

end Finding

open Finding

theorem Resolution.ofKinds_findings (r : Resolution) (edge : Edge) (endpoints : Endpoints) :
    OfKinds [.unresolvedConnection, .ambiguousRule] (r.findings edge endpoints) := by
  cases r with
  | matched rule => exact .nil
  | ambiguous rule candidates => exact .singleton (by simp) rfl
  | unresolved => exact .singleton (by simp) rfl

theorem Injection.ofKinds_findings (i : Injection) (edge : Edge) (governedBefore : Bool) :
    OfKinds [.referenceOverwroteValue] (i.findings edge governedBefore) := by
  unfold Injection.findings
  split
  · exact .nil
  · exact .singleton (by simp) rfl

/-- The kinds of findings that come up with connections. -/
def connectionKinds : List FindingKind :=
  [.unresolvedConnection, .ambiguousRule, .referenceOverwroteValue]

theorem Connecting.ofKinds_connect (rules : List Rule) {state : Connecting}
    (h : OfKinds connectionKinds state.findings) (edge : Edge) :
    OfKinds connectionKinds (state.connect rules edge).findings := by
  unfold Connecting.connect
  split
  · rename_i source target _ _
    let endpoints := edge.endpoints source.resource target.resource
    have hresolved := h.append ((Resolution.ofKinds_findings (Rule.resolve rules endpoints) edge
      endpoints).mono (by simp [connectionKinds]))
    dsimp only
    split
    · exact hresolved.append ((Injection.ofKinds_findings _ edge _).mono (by simp [connectionKinds]))
    · exact hresolved
  · exact h

theorem ofKinds_connectAll (rules : List Rule) (members : List Member) (edges : List Edge) :
    OfKinds connectionKinds (connectAll rules members edges).findings :=
  List.foldlRecOn (motive := fun state : Connecting => OfKinds connectionKinds state.findings)
    edges _ .nil fun _ hstate edge _ => Connecting.ofKinds_connect rules hstate edge

theorem PropertySchema.ofKinds_fill (s : PropertySchema) (r : Resource) :
    OfKinds [.missingProperty] (s.fill r).2 := by
  unfold PropertySchema.fill
  split
  · exact .nil
  · exact .nil
  · dsimp only
    split
    · exact .singleton (by simp [Resource.missingFinding]) rfl
    · exact .nil

theorem ofKinds_fillDefaults (schema : List PropertySchema) (r : Resource) :
    OfKinds [.missingProperty] (fillDefaults schema r).2 := by
  induction schema generalizing r with
  | nil => exact .nil
  | cons s schema ih => exact (s.ofKinds_fill r).append (ih _)

theorem Member.ofKinds_withDefaults (types : Registry) (member : Member) :
    OfKinds [.missingProperty] (member.withDefaults types).2 := by
  unfold Member.withDefaults
  split
  · exact .nil
  · exact ofKinds_fillDefaults _ _

theorem Connecting.ofKinds_filled (state : Connecting) (types : Registry) :
    OfKinds [.missingProperty] ((state.filled types).flatMap (·.2)) := by
  apply OfKinds.flatMap
  intro entry hentry
  obtain ⟨member, _, rfl⟩ := List.mem_map.mp hentry
  exact member.ofKinds_withDefaults types

theorem Provider.ofKinds_distinct (seen : List String) (providers : List Provider) :
    OfKinds [.duplicateProvider] (Provider.distinct seen providers).2 := by
  induction providers generalizing seen with
  | nil => exact .nil
  | cons p rest ih =>
    rw [Provider.distinct]
    split
    · exact (OfKinds.singleton (by simp [Provider.repeatedFinding]) rfl).append (ih seen)
    · exact ih (p.id :: seen)

theorem Settling.ofKinds_supply (provider : String) (r : Resource) {state : Settling}
    (h : OfKinds [.duplicateProvider] state.findings) (key : String) :
    OfKinds [.duplicateProvider] (Settling.supply provider r state key).findings := by
  unfold Settling.supply
  split
  · split
    · exact h.append (.singleton (by simp [Settling.repeatedFinding]) rfl)
    · exact h
  · exact h

theorem Settling.ofKinds_supplyAll (types : Registry) {state : Settling}
    (h : OfKinds [.duplicateProvider] state.findings) (r : Resource) :
    OfKinds [.duplicateProvider] (Settling.supplyAll types state r).findings := by
  unfold Settling.supplyAll
  split
  · rename_i type _
    exact List.foldlRecOn
      (motive := fun state : Settling => OfKinds [.duplicateProvider] state.findings) _ _ h
      fun _ hstate key _ => Settling.ofKinds_supply type.provider r hstate key
  · exact h

theorem ProviderBlocks.ofKinds_build (catalog : Catalog) (project : Project)
    (resources : List Resource) :
    OfKinds [.duplicateProvider] (ProviderBlocks.build catalog project resources).2 :=
  (Provider.ofKinds_distinct [] catalog.providers).append
    (List.foldlRecOn
      (motive := fun state : Settling => OfKinds [.duplicateProvider] state.findings) resources _ .nil
      fun _ hstate r _ => Settling.ofKinds_supplyAll catalog.types hstate r)

theorem Member.ofKinds_failures (types : Registry) (d : Diagram) (members run : List Member) :
    OfKinds [.unknownResourceType, .generatorFailed] (run.filterMap (·.failure? types d members)) := by
  intro finding hfinding
  obtain ⟨member, _, hfailure⟩ := List.mem_filterMap.mp hfinding
  unfold Member.failure? at hfailure
  split at hfailure
  · cases hfailure
    exact ⟨by simp [Generated.unknownFinding], rfl⟩
  · split at hfailure
    · cases hfailure
      exact ⟨by simp [Generated.failedFinding], rfl⟩
    · cases hfailure

end Groundplan
