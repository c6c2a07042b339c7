import Groundplan.Compile.Basic
import Mathlib.Data.List.Forall2

/-!
# Resources that look alike

Two resources look alike if no reader that takes blank values as unset can tell them apart.
Connecting, filling in defaults and collecting the settings of providers are such readers: they come
to the same findings for both, and leave both alike again.
-/

namespace Groundplan

/-- Whether two resources differ at most in blank values. -/
structure Resource.Alike (r s : Resource) : Prop where
  id_eq : r.id = s.id
  typeId_eq : r.typeId = s.typeId
  name_eq : r.name = s.name
  modes_eq : r.modes = s.modes
  present?_eq : ∀ key, r.present? key = s.present? key

theorem Resource.present?_setProperty (r : Resource) (key : String) (value : Property)
    (other : String) : (r.setProperty key value).present? other =
      if other = key then (some value).filter (!·.isBlank) else r.present? other := by
  by_cases h : other = key
  · rw [if_pos h, h, Resource.present?, Resource.property?_setProperty_self]
  · rw [if_neg h, Resource.present?, Resource.property?_setProperty_of_ne r value h]
    rfl

theorem Resource.bind_property? {α : Type} {f : Property → Option α}
    (hf : ∀ value, value.isBlank = true → f value = none) (r : Resource) (key : String) :
    (r.property? key).bind f = (r.present? key).bind f := by
  unfold Resource.present?
  cases r.property? key with
  | none => rfl
  | some value =>
    rw [Option.filter_some]
    split
    · rfl
    · rename_i hblank
      exact hf value (by simpa using hblank)

theorem Property.bool?_of_isBlank {value : Property} (h : value.isBlank = true) :
    value.bool? = none := by
  cases value <;> simp_all [isBlank, bool?]

theorem Property.reference?_of_isBlank {value : Property} (h : value.isBlank = true) :
    value.reference? = none := by
  cases value <;> simp_all [isBlank, reference?]

namespace Resource.Alike

variable {r s : Resource}

theorem refl (r : Resource) : r.Alike r := ⟨rfl, rfl, rfl, rfl, fun _ => rfl⟩

theorem setProperty (h : r.Alike s) (key : String) (value : Property) :
    (r.setProperty key value).Alike (s.setProperty key value) where
  id_eq := h.id_eq
  typeId_eq := h.typeId_eq
  name_eq := h.name_eq
  modes_eq := h.modes_eq
  present?_eq other := by rw [present?_setProperty, present?_setProperty, h.present?_eq]

theorem mode_eq (h : r.Alike s) (key : String) : r.mode key = s.mode key := by
  rw [mode, mode, h.modes_eq]

theorem require_eq (h : r.Alike s) (key : String) : r.require key = s.require key := by
  rw [require, require, h.present?_eq, h.id_eq]

theorem requireString_eq (h : r.Alike s) (key : String) :
    r.requireString key = s.requireString key := by
  rw [requireString, requireString, h.require_eq, h.id_eq]

theorem bind_property?_eq {α : Type} (h : r.Alike s) {f : Property → Option α}
    (hf : ∀ value, value.isBlank = true → f value = none) (key : String) :
    (r.property? key).bind f = (s.property? key).bind f := by
  rw [bind_property? hf, bind_property? hf, h.present?_eq]

theorem stringOr_eq (h : r.Alike s) {key : String} (hset : (r.present? key).isSome)
    (default : String) : r.stringOr key default = s.stringOr key default := by
  obtain ⟨value, hvalue⟩ := Option.isSome_iff_exists.mp hset
  have hr := (Option.filter_eq_some_iff.mp hvalue).1
  have hs := (Option.filter_eq_some_iff.mp ((h.present?_eq key).symm.trans hvalue)).1
  rw [stringOr, stringOr, hr, hs]

end Resource.Alike

/-- Whether two members have one identity and resources that look alike. -/
structure Member.Alike (a b : Member) : Prop where
  resource : a.resource.Alike b.resource
  identity_eq : a.identity = b.identity

/-- Whether two contexts show a generator the same of itself, of the project and of one resource. -/
structure Context.Alike (id : String) (c e : Context) : Prop where
  identity_eq : c.identity = e.identity
  project_eq : c.project = e.project
  address?_eq : c.address? id = e.address? id

theorem rel_cases {α β : Type} {R : α → β → Prop} {a : Option α} {b : Option β}
    (h : Option.Rel R a b) :
    (a = none ∧ b = none) ∨ ∃ x y, a = some x ∧ b = some y ∧ R x y := by
  cases h with
  | none => exact .inl ⟨rfl, rfl⟩
  | some h => exact .inr ⟨_, _, rfl, rfl, h⟩

section Members

variable {members others : List Member}

theorem Member.rel_find? (h : List.Forall₂ Member.Alike members others) (id : String) :
    Option.Rel Member.Alike (Member.find? members id) (Member.find? others id) := by
  induction h with
  | nil => exact .none
  | cons hhead _ ih =>
    unfold Member.find? at ih ⊢
    rw [List.find?_cons, List.find?_cons, hhead.resource.id_eq]
    split
    · exact .some hhead
    · exact ih

theorem Member.forall₂_update (h : List.Forall₂ Member.Alike members others) {r s : Resource}
    (hr : r.Alike s) :
    List.Forall₂ Member.Alike (Member.update members r) (Member.update others s) := by
  unfold Member.update
  rw [List.forall₂_map_left_iff, List.forall₂_map_right_iff]
  refine h.imp fun a b hab => ?_
  rw [hab.resource.id_eq, hr.id_eq]
  split
  · exact ⟨hr, hab.identity_eq⟩
  · exact hab

end Members

/-- Whether two injections change resources that look alike in the same way. -/
structure Injection.Alike (i j : Injection) : Prop where
  updated : i.updated.Alike j.updated
  key_eq : i.key = j.key
  overwritten_eq : i.overwritten = j.overwritten

theorem Resource.Alike.inject {r s : Resource} (h : r.Alike s) (key : String) (value : Property) :
    (r.inject key value).Alike (s.inject key value) where
  updated := h.setProperty key value
  key_eq := rfl
  overwritten_eq := by rw [Resource.inject, Resource.inject, h.present?_eq]

theorem Rule.rel_inject? (rule : Rule) {source target otherSource otherTarget : Member}
    (hs : source.Alike otherSource) (ht : target.Alike otherTarget) :
    Option.Rel Injection.Alike (rule.inject? source target)
      (rule.inject? otherSource otherTarget) := by
  unfold Rule.inject?
  cases rule.reference with
  | none => exact .none
  | some directive =>
    dsimp only [Option.map_some]
    cases directive.side with
    | source =>
      rw [ht.identity_eq]
      exact .some (hs.resource.inject _ _)
    | target =>
      rw [hs.identity_eq]
      exact .some (ht.resource.inject _ _)

namespace Connecting

/-- Whether two states of connecting differ only by members that look alike. -/
structure Alike (state other : Connecting) : Prop where
  members : List.Forall₂ Member.Alike state.members other.members
  governed_eq : state.governed = other.governed
  findings_eq : state.findings = other.findings

variable {state other : Connecting}

theorem Alike.write (h : state.Alike other) (edge : Edge) {i j : Injection} (hij : i.Alike j) :
    (state.write edge i).Alike (other.write edge j) where
  members := Member.forall₂_update h.members hij.updated
  governed_eq := by
    rw [Connecting.write, Connecting.write, h.governed_eq, hij.updated.id_eq, hij.key_eq]
  findings_eq := by
    simp only [Connecting.write, Injection.findings, h.governed_eq, h.findings_eq,
      hij.updated.id_eq, hij.key_eq, hij.overwritten_eq]

theorem Alike.connect (h : state.Alike other) (rules : List Rule) (edge : Edge) :
    (state.connect rules edge).Alike (other.connect rules edge) := by
  unfold Connecting.connect
  rcases rel_cases (Member.rel_find? h.members edge.source) with
    ⟨hs, hs'⟩ | ⟨source, otherSource, hs, hs', hsource⟩
  · rw [hs, hs']
    exact h
  rcases rel_cases (Member.rel_find? h.members edge.target) with
    ⟨ht, ht'⟩ | ⟨target, otherTarget, ht, ht', htarget⟩
  · rw [hs, hs', ht, ht']
    exact h
  have hends : edge.endpoints source.resource target.resource =
      edge.endpoints otherSource.resource otherTarget.resource := by
    rw [Edge.endpoints, Edge.endpoints, hsource.resource.typeId_eq, htarget.resource.typeId_eq]
  rw [hs, hs', ht, ht']
  dsimp only
  rw [hends]
  let endpoints := edge.endpoints otherSource.resource otherTarget.resource
  have hresolved : Alike
      { state with findings := state.findings ++
          (Rule.resolve rules endpoints).findings edge endpoints }
      { other with findings := other.findings ++
          (Rule.resolve rules endpoints).findings edge endpoints } :=
    ⟨h.members, h.governed_eq, by rw [h.findings_eq]⟩
  cases (Rule.resolve rules endpoints).rule? with
  | none => exact hresolved
  | some rule =>
    dsimp only [Option.bind_some]
    rcases rel_cases (rule.rel_inject? hsource htarget) with ⟨hi, hj⟩ | ⟨i, j, hi, hj, hij⟩
    · rw [hi, hj]
      exact hresolved
    · rw [hi, hj]
      exact hresolved.write edge hij

end Connecting

/-- Members that look alike still do when all edges have been processed, with the same findings. -/
theorem alike_connectAll (rules : List Rule) {members others : List Member}
    (h : List.Forall₂ Member.Alike members others) (edges : List Edge) :
    (connectAll rules members edges).Alike (connectAll rules others edges) := by
  have hrun : ∀ state other : Connecting, state.Alike other →
      (edges.foldl (Connecting.connect rules) state).Alike
        (edges.foldl (Connecting.connect rules) other) := by
    induction edges with
    | nil => exact fun _ _ hstate => hstate
    | cons edge edges ih => exact fun _ _ hstate => ih _ _ (hstate.connect rules edge)
  exact hrun _ _ ⟨h, rfl, rfl⟩

theorem PropertySchema.alike_fill (p : PropertySchema) {r s : Resource} (h : r.Alike s) :
    (p.fill r).1.Alike (p.fill s).1 ∧ (p.fill r).2 = (p.fill s).2 := by
  unfold PropertySchema.fill
  rw [h.present?_eq]
  cases s.present? p.key with
  | some value => exact ⟨h, rfl⟩
  | none =>
    cases p.default with
    | some value => exact ⟨h.setProperty p.key value, rfl⟩
    | none => exact ⟨h, by rw [Resource.missingFinding, Resource.missingFinding, h.id_eq, h.name_eq]⟩

theorem alike_fillDefaults (schema : List PropertySchema) {r s : Resource} (h : r.Alike s) :
    (fillDefaults schema r).1.Alike (fillDefaults schema s).1 ∧
      (fillDefaults schema r).2 = (fillDefaults schema s).2 := by
  induction schema generalizing r s with
  | nil => exact ⟨h, rfl⟩
  | cons p schema ih =>
    obtain ⟨hfilled, hfound⟩ := p.alike_fill h
    obtain ⟨hresult, hrest⟩ := ih hfilled
    exact ⟨hresult, congrArg₂ (· ++ ·) hfound hrest⟩

theorem Member.alike_withDefaults (types : Registry) {a b : Member} (h : a.Alike b) :
    (a.withDefaults types).1.Alike (b.withDefaults types).1 ∧
      (a.withDefaults types).2 = (b.withDefaults types).2 := by
  unfold Member.withDefaults
  rw [h.resource.typeId_eq]
  cases types.get? b.resource.typeId with
  | none => exact ⟨h, rfl⟩
  | some type =>
    obtain ⟨hfilled, hfindings⟩ := alike_fillDefaults type.schema h.resource
    exact ⟨⟨hfilled, h.identity_eq⟩, hfindings⟩

theorem Connecting.Alike.filled {state other : Connecting} (h : state.Alike other)
    (types : Registry) :
    List.Forall₂ (fun entry otherEntry => entry.1.Alike otherEntry.1 ∧ entry.2 = otherEntry.2)
      (state.filled types) (other.filled types) := by
  unfold Connecting.filled
  rw [List.forall₂_map_left_iff, List.forall₂_map_right_iff]
  exact h.members.imp fun _ _ hab => Member.alike_withDefaults types hab

section Providers

variable {resources others : List Resource}

theorem Provider.used_eq_of_alike (types : Registry) (providers active : List Provider)
    (h : List.Forall₂ Resource.Alike resources others) :
    used types providers active resources = used types providers active others := by
  induction h generalizing active with
  | nil => rfl
  | cons hhead _ ih =>
    simp only [used, hhead.typeId_eq, ih]

theorem Settling.supplyAll_eq_of_alike (types : Registry) (state : Settling) {r s : Resource}
    (h : r.Alike s) : supplyAll types state r = supplyAll types state s := by
  have hsupply : ∀ provider, supply provider r = supply provider s := by
    intro provider
    funext state key
    unfold supply repeatedFinding
    rw [h.present?_eq, h.id_eq]
  unfold supplyAll
  rw [h.typeId_eq]
  cases types.get? s.typeId with
  | none => rfl
  | some type => simp only [hsupply]

theorem ProviderBlocks.build_eq_of_alike (catalog : Catalog) (project : Project)
    (h : List.Forall₂ Resource.Alike resources others) :
    build catalog project resources = build catalog project others := by
  have hsettled : ∀ state, resources.foldl (Settling.supplyAll catalog.types) state =
      others.foldl (Settling.supplyAll catalog.types) state := by
    induction h with
    | nil => exact fun _ => rfl
    | cons hhead _ ih =>
      intro state
      rw [List.foldl_cons, List.foldl_cons, Settling.supplyAll_eq_of_alike _ _ hhead, ih]
  unfold build
  simp only [Provider.used_eq_of_alike _ _ _ h, hsettled]

end Providers

end Groundplan
