import Groundplan.Proofs.Isolation
import Groundplan.Proofs.Labels

/-!
# Success

A generation succeeds if every step of it does. A resource of a known type for which it fails is
reported as such, and no other resource is. What decides about it is what the generators find in the
working copies, so the values that defaults leave there are given here in full.
-/

namespace Groundplan

namespace Generation

variable {α β : Type}

theorem succeeds_pure (a : α) : (Pure.pure a : Generation α).succeeds = true := rfl

/-- One generation after another succeeds if the first gives a result with which the second does. -/
theorem succeeds_bind_iff {x : Generation α} {f : α → Generation β} :
    (x >>= f).succeeds = true ↔ ∃ a, x.outcome = .ok a ∧ (f a).succeeds = true := by
  cases h : x.outcome with
  | error e =>
    rw [bind_of_error f h]
    simp [succeeds, Except.toBool]
  | ok a =>
    rw [bind_of_ok f h]
    simp [succeeds]

theorem succeeds_liftM_bind_iff {x : Except ResourceError α} {f : α → Generation β} :
    (liftM x >>= f).succeeds = true ↔ ∃ a, x = .ok a ∧ (f a).succeeds = true :=
  succeeds_bind_iff

theorem succeeds_bind_of_ok {x : Generation α} {a : α} (f : α → Generation β)
    (h : x.outcome = .ok a) : (x >>= f).succeeds = (f a).succeeds := by
  rw [bind_of_ok f h]
  rfl

end Generation

namespace Resource

theorem exists_require_iff {r : Resource} {key : String} :
    (∃ value, r.require key = .ok value) ↔ (r.present? key).isSome := by
  simp only [require_eq_ok_iff, Option.isSome_iff_exists]

/-- Text is required of a property that is set: another value is as good as none. -/
theorem requireString_eq_ok_iff {r : Resource} {key s : String} :
    r.requireString key = .ok s ↔ (r.present? key).bind (·.string?) = some s := by
  unfold requireString require
  cases r.present? key with
  | none => exact iff_of_false (fun h => by cases h) (fun h => by cases h)
  | some value =>
    simp only [bind, Except.bind, Option.bind_some]
    cases value.string? with
    | none => exact iff_of_false (fun h => by cases h) (fun h => by cases h)
    | some text =>
      constructor
      · intro h
        cases h
        rfl
      · intro h
        cases h
        rfl

end Resource

theorem resolvedName_of_mem_assignIdentities {types : Registry} {naming : Naming}
    {taken : List String} {nodes : List Resource} {member : Member}
    (h : member ∈ assignIdentities types naming taken nodes) :
    member.identity.resolvedName = naming.resolve
      ((types.get? member.resource.typeId).bind (·.constraints)) member.resource.name := by
  induction nodes generalizing taken with
  | nil => exact absurd h List.not_mem_nil
  | cons node nodes ih =>
    rcases List.mem_cons.mp h with rfl | h
    · rfl
    · exact ih h

namespace Diagram

variable {d : Diagram} (catalog : Catalog)

theorem resolvedName_of_mem_members {types : Registry} {member : Member}
    (h : member ∈ d.members types) : member.identity.resolvedName = d.naming.resolve
      ((types.get? member.resource.typeId).bind (·.constraints)) member.resource.name :=
  resolvedName_of_mem_assignIdentities h

theorem exists_member_of_mem_nodes {node : Resource} (h : node ∈ d.nodes) (types : Registry) :
    ∃ member ∈ d.members types, member.resource = node := by
  rw [← map_resource_assignIdentities types d.naming [] d.nodes] at h
  exact List.mem_map.mp h

theorem workingCopy_mem_working (hcheck : d.check = .ok ()) {member : Member}
    (h : member ∈ d.members catalog.types) : d.workingCopy catalog member ∈ d.working catalog := by
  rw [working_eq catalog hcheck]
  exact List.mem_map_of_mem h

/-- What the generators find under a key that no edge governs. -/
theorem present?_workingCopy_of_unwritten {member : Member} {type : ResourceType}
    (htype : catalog.types.get? member.resource.typeId = some type) {key : String}
    (h : lastWriting? (d.writings catalog) member.resource.id key = none) :
    (d.workingCopy catalog member).resource.present? key =
      (member.resource.present? key).or (type.schema.findSome? (·.fallback? key)) := by
  have hbare := Member.bare_foldl_receive (d.writings catalog) member
  have hproperty : ((d.writings catalog).foldl Member.receive member).resource.present? key =
      member.resource.present? key := by
    rw [Resource.present?, Member.property?_foldl_receive, h]
    rfl
  rw [← Member.typeId_eq_of_bare hbare] at htype
  rw [workingCopy, Member.withDefaults, htype]
  show (fillDefaults type.schema _).1.present? key = _
  rw [present?_fillDefaults, hproperty]

end Diagram

/-- Whether it is among the findings that generating a resource has failed. -/
def Compiled.FailsFor (c : Compiled) (id : String) : Prop :=
  ∃ f ∈ c.findings, f.kind = .generatorFailed ∧ f.node = some id

namespace Diagram

variable (d : Diagram) (catalog : Catalog)

theorem ofKinds_earlyFindings :
    Finding.OfKinds (connectionKinds ++ [.missingProperty, .duplicateProvider])
      (d.earlyFindings catalog) := by
  refine .append (.append ?_ ?_) ?_
  · exact (ofKinds_connectAll _ _ _).mono (List.subset_append_left _ _)
  · exact (Connecting.ofKinds_filled _ _).mono (by simp)
  · exact (ProviderBlocks.ofKinds_build _ _ _).mono (by simp)

variable {d}

theorem failsFor_iff_exists_failure (id : String) :
    (d.compileConsistent catalog).FailsFor id ↔ ∃ member ∈ d.working catalog,
      ∃ f, d.failure? catalog member = some f ∧ f.kind = .generatorFailed ∧ f.node = some id := by
  unfold Compiled.FailsFor
  rw [findings_eq]
  constructor
  · rintro ⟨f, hf, hkind, hnode⟩
    rcases List.mem_append.mp hf with hf | hf
    · have hearly := (d.ofKinds_earlyFindings catalog f hf).1
      rw [hkind] at hearly
      exact absurd hearly (by decide)
    · obtain ⟨member, hmember, hfailure⟩ := List.mem_filterMap.mp hf
      exact ⟨member, hmember, f, hfailure, hkind, hnode⟩
  · rintro ⟨member, hmember, f, hfailure, hkind, hnode⟩
    exact ⟨f, List.mem_append_right _ (List.mem_filterMap.mpr ⟨member, hmember, hfailure⟩),
      hkind, hnode⟩

theorem kind_of_failure? {member : Member} {type : ResourceType}
    (htype : catalog.types.get? member.resource.typeId = some type) {f : Finding}
    (h : d.failure? catalog member = some f) : f.kind = .generatorFailed := by
  have hresolve : catalog.types.resolve member.resource.typeId = .ok type := by
    rw [Registry.resolve, htype]
  unfold failure? Member.failure? at h
  rw [hresolve] at h
  dsimp only at h
  split at h
  · cases h
    rfl
  · cases h

/-- The failure of a resource whose type is known is reported, and only that. -/
theorem failsFor_iff (hcheck : d.check = .ok ()) {member : Member}
    (hm : member ∈ d.working catalog) {type : ResourceType}
    (htype : catalog.types.get? member.resource.typeId = some type) :
    (d.compileConsistent catalog).FailsFor member.resource.id ↔
      ¬(d.generation catalog member).succeeds = true := by
  rw [failsFor_iff_exists_failure, ← d.failure?_eq_none_iff catalog, ← ne_eq,
    Option.ne_none_iff_exists']
  constructor
  · rintro ⟨other, hother, f, hfailure, _, hnode⟩
    have hid : other.resource.id = member.resource.id :=
      Option.some.inj ((Member.failure?_eq_some _ _ _ hfailure).2.symm.trans hnode)
    have hsame : other = member :=
      Member.eq_of_id_eq (nodup_id_working catalog hcheck) hother hm hid
    exact ⟨f, hsame ▸ hfailure⟩
  · rintro ⟨f, hfailure⟩
    exact ⟨member, hm, f, hfailure, kind_of_failure? catalog htype hfailure,
      (Member.failure?_eq_some _ _ _ hfailure).2⟩

end Diagram

end Groundplan
