import Groundplan.Catalog.Rule
import Mathlib.Data.List.Basic
import Mathlib.Logic.Relation

/-!
# Resolution of edges

An edge is decided by the rules that both leave its source handle and arrive at its target handle:
whether there are any, whether there are several, and which of them comes first. Rules for other edges
have no say, wherever they are registered.
-/

namespace Groundplan.Rule

/-- The rules by which the source handle of an edge can be left and its target handle be reached, in
the order of their registration. -/
def between (rules : List Rule) (e : Endpoints) : List Rule :=
  rules.filter fun r => r ∈ leaving rules e.sourceType e.sourceHandle ∧
    r ∈ arriving rules e.targetType e.targetHandle

theorem allows_iff {r : Rule} {e : Endpoints} : r.allows e ↔ r.endpoints = e := beq_iff_eq

variable {rules : List Rule} {e : Endpoints}

theorem mem_leaving_iff {type handle : String} {r : Rule} : r ∈ leaving rules type handle ↔
    r ∈ rules ∧ r.endpoints.sourceType = type ∧ r.endpoints.sourceHandle = handle := by
  simp [leaving]

theorem mem_arriving_iff {type handle : String} {r : Rule} : r ∈ arriving rules type handle ↔
    r ∈ rules ∧ r.endpoints.targetType = type ∧ r.endpoints.targetHandle = handle := by
  simp [arriving]

/-- The two halves of an edge make up the whole of it. -/
theorem allows_iff_mem_queries {r : Rule} (h : r ∈ rules) : r.allows e ↔
    r ∈ leaving rules e.sourceType e.sourceHandle ∧
      r ∈ arriving rules e.targetType e.targetHandle := by
  rw [mem_leaving_iff, mem_arriving_iff, allows_iff]
  constructor
  · rintro rfl
    exact ⟨⟨h, rfl, rfl⟩, h, rfl, rfl⟩
  · rintro ⟨⟨_, hsourceType, hsourceHandle⟩, _, htargetType, htargetHandle⟩
    cases e
    cases hends : r.endpoints
    simp_all

theorem between_eq_filter_allows (rules : List Rule) (e : Endpoints) :
    between rules e = rules.filter (·.allows e) := by
  refine List.filter_congr fun r hr => ?_
  rw [Bool.eq_iff_iff, decide_eq_true_iff]
  exact (allows_iff_mem_queries hr).symm

/-- Either query, kept to what the other one has as well, gives the rules in the same order and
number. -/
theorem leaving_filter_arriving (rules : List Rule) (e : Endpoints) :
    (leaving rules e.sourceType e.sourceHandle).filter
      (· ∈ arriving rules e.targetType e.targetHandle) = between rules e := by
  rw [leaving, List.filter_filter, between]
  refine List.filter_congr fun r hr => ?_
  rw [Bool.eq_iff_iff]
  simp [mem_leaving_iff, mem_arriving_iff, hr, and_comm, and_assoc]

theorem arriving_filter_leaving (rules : List Rule) (e : Endpoints) :
    (arriving rules e.targetType e.targetHandle).filter
      (· ∈ leaving rules e.sourceType e.sourceHandle) = between rules e := by
  rw [arriving, List.filter_filter, between]
  refine List.filter_congr fun r hr => ?_
  rw [Bool.eq_iff_iff]
  simp [mem_leaving_iff, mem_arriving_iff, hr, and_assoc]

theorem resolve_eq_of_between {others : List Rule} (h : between others e = between rules e) :
    resolve others e = resolve rules e := by
  rw [between_eq_filter_allows, between_eq_filter_allows] at h
  rw [resolve, resolve, h]

/-- What resolution makes of the rules between the ends of an edge. -/
theorem resolve_cases (rules : List Rule) (e : Endpoints) :
    (between rules e = [] ∧ resolve rules e = .unresolved) ∨
      (∃ rule, between rules e = [rule] ∧ resolve rules e = .matched rule) ∨
      ∃ rule second more, between rules e = rule :: second :: more ∧
        resolve rules e = .ambiguous rule (more.length + 2) := by
  rw [between_eq_filter_allows, resolve]
  generalize rules.filter (·.allows e) = shared
  match shared with
  | [] => exact .inl ⟨rfl, rfl⟩
  | [rule] => exact .inr (.inl ⟨rule, rfl, rfl⟩)
  | rule :: second :: more => exact .inr (.inr ⟨rule, second, more, rfl, rfl⟩)

theorem resolve_eq_unresolved_iff : resolve rules e = .unresolved ↔ between rules e = [] := by
  obtain ⟨hbetween, h⟩ | ⟨rule, hbetween, h⟩ | ⟨rule, second, more, hbetween, h⟩ :=
    resolve_cases rules e
  all_goals simp [hbetween, h]

theorem resolve_eq_matched_iff {rule : Rule} :
    resolve rules e = .matched rule ↔ between rules e = [rule] := by
  obtain ⟨hbetween, h⟩ | ⟨first, hbetween, h⟩ | ⟨first, second, more, hbetween, h⟩ :=
    resolve_cases rules e
  all_goals simp [hbetween, h]

theorem resolve_eq_ambiguous_iff {rule : Rule} {n : Nat} : resolve rules e = .ambiguous rule n ↔
    (between rules e).head? = some rule ∧ (between rules e).length = n ∧ 1 < n := by
  obtain ⟨hbetween, h⟩ | ⟨first, hbetween, h⟩ | ⟨first, second, more, hbetween, h⟩ :=
    resolve_cases rules e
  · simp [hbetween, h]
  · simp only [hbetween, h, reduceCtorEq, List.length_singleton, false_iff]
    omega
  · simp only [hbetween, h, Resolution.ambiguous.injEq, List.head?_cons, Option.some.injEq,
      List.length_cons]
    exact and_congr_right fun _ => by omega

/-- An edit of a list of rules that concerns other edges than the given one: a rule for another edge is
put in, taken out, or moved past its neighbour. -/
inductive EditElsewhere (e : Endpoints) : List Rule → List Rule → Prop where
  | insert (front : List Rule) (r : Rule) (back : List Rule) (h : r.endpoints ≠ e) :
      EditElsewhere e (front ++ back) (front ++ r :: back)
  | remove (front : List Rule) (r : Rule) (back : List Rule) (h : r.endpoints ≠ e) :
      EditElsewhere e (front ++ r :: back) (front ++ back)
  | swap (front : List Rule) (r s : Rule) (back : List Rule) (h : r.endpoints ≠ e ∨ s.endpoints ≠ e) :
      EditElsewhere e (front ++ r :: s :: back) (front ++ s :: r :: back)

theorem EditElsewhere.between_eq {others : List Rule} (h : EditElsewhere e rules others) :
    between others e = between rules e := by
  have hother : ∀ {r : Rule}, r.endpoints ≠ e → r.allows e = false := fun hr =>
    Bool.eq_false_iff.mpr (mt allows_iff.mp hr)
  rw [between_eq_filter_allows, between_eq_filter_allows]
  cases h with
  | insert front r back h => simp [hother h]
  | remove front r back h => simp [hother h]
  | swap front r s back h =>
    rcases h with h | h
    · simp [List.filter_cons, hother h]
    · simp [List.filter_cons, hother h]

theorem between_eq_of_edits {others : List Rule}
    (h : Relation.ReflTransGen (EditElsewhere e) rules others) :
    between others e = between rules e := by
  induction h with
  | refl => rfl
  | tail _ hedit ih => rw [hedit.between_eq, ih]

/-- Rules that are registered behind one that applies do not take its place. -/
theorem rule?_resolve_append {rule : Rule} (h : (resolve rules e).rule? = some rule)
    (more : List Rule) : (resolve (rules ++ more) e).rule? = some rule := by
  rw [rule?_resolve] at h ⊢
  rw [List.filter_append, List.head?_append, h]
  rfl

/-- Resolution goes by the rules that both queries about the ends of an edge return: it finds none,
the only one, or the first of several along with their number. Edits that concern other edges leave
the outcome as it is, and rules that are added behind an applicable one leave the governing rule. -/
theorem resolve_agrees_with_queries (rules : List Rule) (e : Endpoints) :
    ((leaving rules e.sourceType e.sourceHandle).filter
          (· ∈ arriving rules e.targetType e.targetHandle) = between rules e ∧
        (arriving rules e.targetType e.targetHandle).filter
          (· ∈ leaving rules e.sourceType e.sourceHandle) = between rules e) ∧
      (resolve rules e = .unresolved ↔ between rules e = []) ∧
      (∀ rule, resolve rules e = .matched rule ↔ between rules e = [rule]) ∧
      (∀ rule n, resolve rules e = .ambiguous rule n ↔
        (between rules e).head? = some rule ∧ (between rules e).length = n ∧ 1 < n) ∧
      (∀ others, Relation.ReflTransGen (EditElsewhere e) rules others →
        resolve others e = resolve rules e) ∧
      ∀ rule, (resolve rules e).rule? = some rule →
        ∀ more, (resolve (rules ++ more) e).rule? = some rule := by
  refine ⟨⟨leaving_filter_arriving rules e, arriving_filter_leaving rules e⟩,
    resolve_eq_unresolved_iff, fun rule => resolve_eq_matched_iff,
    fun rule n => resolve_eq_ambiguous_iff, ?_, ?_⟩
  · intro others hedits
    exact resolve_eq_of_between (between_eq_of_edits hedits)
  · intro rule hrule more
    exact rule?_resolve_append hrule more

/-- A rule with the same source handle stands between two rules for the edge, is moved to the front
and taken out again. -/
theorem resolve_agrees_with_queries_pumps :
    let ends : Endpoints := ⟨"plant/site", "pumps", "plant/pump", "site-in"⟩
    let first : Rule := ⟨ends, some ⟨.target, "site", none⟩, none⟩
    let second : Rule := ⟨ends, some ⟨.target, "site_id", none⟩, none⟩
    let near : Rule := ⟨{ ends with targetHandle := "spare-in" }, none, none⟩
    resolve [first, near, second] ends = .ambiguous first 2 ∧
      Relation.ReflTransGen (EditElsewhere ends) [first, near, second] [first, second] ∧
      resolve [first, second] ends = resolve [first, near, second] ends ∧
      (resolve ([first, near, second] ++ [near, second]) ends).rule? = some first := by
  intro ends first second near
  obtain ⟨_, _, _, hambiguous, hedits, happend⟩ :=
    resolve_agrees_with_queries [first, near, second] ends
  have hrun : Relation.ReflTransGen (EditElsewhere ends) [first, near, second] [first, second] :=
    .head (.swap [] first near [second] (.inr (by decide)))
      (.single (.remove [] near [first, second] (by decide)))
  exact ⟨(hambiguous first 2).mpr (by decide), hrun, hedits _ hrun, happend first (by decide) _⟩

end Groundplan.Rule
