import Groundplan.Diagram.Resource
import Groundplan.Generation.Declaration

/-!
# Generations

What a generator does for one resource: it declares variables and outputs one after the other, and
ends with a result or an error. A generator sees nothing of what others have declared.
-/

namespace Groundplan

/-- The course of a generation: what it declares, in order, and how it ends. -/
structure Generation (α : Type) where
  declared : List Declaration
  outcome : Except ResourceError α

namespace Generation

variable {α β : Type}

def pure (a : α) : Generation α := ⟨[], .ok a⟩

/-- One generation after another. If the first fails, the second does not take place. -/
def bind (x : Generation α) (f : α → Generation β) : Generation β :=
  match x.outcome with
  | .ok a => ⟨x.declared ++ (f a).declared, (f a).outcome⟩
  | .error e => ⟨x.declared, .error e⟩

instance : Monad Generation where
  pure := Generation.pure
  bind := Generation.bind

instance : Inhabited (Generation α) := ⟨⟨[], .error (.failed "" "")⟩⟩

/-- A result or an error without declarations. -/
def lift (outcome : Except ResourceError α) : Generation α := ⟨[], outcome⟩

instance : MonadLift (Except ResourceError) Generation := ⟨lift⟩

def fail (e : ResourceError) : Generation α := ⟨[], .error e⟩

def declareVariable (v : Variable) : Generation Unit := ⟨[.ofVariable v], .ok ()⟩

def declareOutput (o : Output) : Generation Unit := ⟨[.ofOutput o], .ok ()⟩

theorem bind_of_ok {x : Generation α} {a : α} (f : α → Generation β) (h : x.outcome = .ok a) :
    x >>= f = ⟨x.declared ++ (f a).declared, (f a).outcome⟩ := by
  show Generation.bind x f = _
  simp [Generation.bind, h]

theorem bind_of_error {x : Generation α} {e : ResourceError} (f : α → Generation β)
    (h : x.outcome = .error e) : x >>= f = ⟨x.declared, .error e⟩ := by
  show Generation.bind x f = _
  simp [Generation.bind, h]

instance : LawfulMonad Generation := LawfulMonad.mk' _
  (fun x => by
    obtain ⟨declared, outcome⟩ := x
    cases outcome <;> simp [Functor.map, Generation.bind, Generation.pure])
  (fun a f => by simp [Bind.bind, Pure.pure, Generation.bind, Generation.pure])
  (fun x f g => by
    obtain ⟨declared, outcome⟩ := x
    cases outcome with
    | error e => simp [Bind.bind, Generation.bind]
    | ok a =>
      simp only [Bind.bind, Generation.bind]
      cases (f a).outcome <;> simp)

theorem bind_eq_ok_iff {x : Generation α} {f : α → Generation β} {declared : List Declaration}
    {b : β} : x >>= f = ⟨declared, .ok b⟩ ↔ ∃ first a second, x = ⟨first, .ok a⟩ ∧
      f a = ⟨second, .ok b⟩ ∧ declared = first ++ second := by
  obtain ⟨first, outcome⟩ := x
  cases outcome with
  | error e => simp [bind_of_error f (x := ⟨first, .error e⟩) rfl]
  | ok a =>
    rw [bind_of_ok f (x := ⟨first, .ok a⟩) rfl]
    constructor
    · intro h
      obtain ⟨hdeclared, houtcome⟩ := Generation.mk.inj h
      exact ⟨first, a, (f a).declared, rfl, by rw [← houtcome], hdeclared.symm⟩
    · rintro ⟨_, _, second, hx, hf, rfl⟩
      cases hx
      rw [hf]

theorem pure_eq_ok_iff {a b : α} {declared : List Declaration} :
    (Pure.pure a : Generation α) = ⟨declared, .ok b⟩ ↔ declared = [] ∧ b = a := by
  constructor
  · intro h
    cases h
    exact ⟨rfl, rfl⟩
  · rintro ⟨rfl, rfl⟩
    rfl

theorem liftM_eq_ok_iff {x : Except ResourceError α} {a : α} {declared : List Declaration} :
    (liftM x : Generation α) = ⟨declared, .ok a⟩ ↔ declared = [] ∧ x = .ok a := by
  constructor
  · intro h
    cases h
    exact ⟨rfl, rfl⟩
  · rintro ⟨rfl, rfl⟩
    rfl

theorem declareOutput_eq_ok_iff {o : Output} {declared : List Declaration} {u : Unit} :
    declareOutput o = ⟨declared, .ok u⟩ ↔ declared = [.ofOutput o] := by
  constructor
  · intro h
    cases h
    rfl
  · rintro rfl
    rfl

end Generation

end Groundplan
