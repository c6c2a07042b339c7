import Groundplan.Proofs.Azure.Generators
import Groundplan.Proofs.Expressions

/-!
# Defaults of variables

The default of a variable has to be a constant. A property that the user has made a variable becomes
the default of that variable as it is, and only a reference at the outermost level is kept from it:
the default holds no reference unless the property is a list with one somewhere inside.
-/

namespace Groundplan

namespace Property

/-- Whether a value holds a reference with the given expression, at any depth. -/
inductive Mentions (e : String) : Property → Prop where
  | reference : Mentions e (.reference e)
  | item {p : Property} {items : List Property} (hp : p ∈ items) (h : Mentions e p) :
      Mentions e (.list items)

theorem mentions_reference_iff {e other : String} :
    (reference other).Mentions e ↔ e = other := by
  constructor
  · rintro ⟨⟩
    rfl
  · rintro rfl
    exact .reference

theorem mentions_list_iff {e : String} {items : List Property} :
    (list items).Mentions e ↔ ∃ p ∈ items, p.Mentions e := by
  constructor
  · rintro ⟨⟩
    exact ⟨_, ‹_›, ‹_›⟩
  · rintro ⟨p, hp, h⟩
    exact .item hp h

mutual

theorem mem_expressions_toValue_iff {e : String} :
    ∀ {p : Property}, e ∈ p.toValue.expressions ↔ p.Mentions e
  | .bool _ | .number _ | .string _ => iff_of_false List.not_mem_nil nofun
  | .list items => by
    rw [mentions_list_iff, ← mem_itemExpressions_toValues_iff]
    rfl
  | .reference other => by
    rw [mentions_reference_iff]
    exact List.mem_singleton

theorem mem_itemExpressions_toValues_iff {e : String} : ∀ {items : List Property},
    e ∈ Value.itemExpressions (toValues items) ↔ ∃ p ∈ items, p.Mentions e
  | [] => by simp [toValues, Value.itemExpressions]
  | item :: items => by
    rw [toValues, Value.itemExpressions, List.mem_append, mem_expressions_toValue_iff,
      mem_itemExpressions_toValues_iff]
    simp

end

/-- A value that holds a reference is one or is a list. -/
theorem Mentions.reference_or_list {e : String} {p : Property} (h : p.Mentions e) :
    p.reference?.isSome ∨ ∃ items, p = .list items := by
  cases h with
  | reference => exact .inl rfl
  | item => exact .inr ⟨_, rfl⟩

end Property

theorem Variable.mem_expressions_toBlock_iff {v : Variable} {e : String} :
    e ∈ v.toBlock.expressions ↔ ∃ p, v.default = some p ∧ p.Mentions e := by
  constructor
  · intro h
    obtain ⟨p, hp, he⟩ := v.mem_expressions_toBlock h
    exact ⟨p, hp, Property.mem_expressions_toValue_iff.mp he⟩
  · rintro ⟨p, hp, he⟩
    refine Block.mem_expressions.mpr ⟨("default", p.toValue), ?_, by simp,
      Property.mem_expressions_toValue_iff.mpr he⟩
    rw [v.declares_toBlock.attributes_eq, hp]
    simp [optionalAttribute]

namespace Context

variable (c : Context) (r : Resource) (key : String) (value : Property) (options : VariableOptions)

theorem propertyValue_of_inline (h : r.mode key = .literal ∨ value.reference?.isSome) :
    c.propertyValue r key value options = ⟨[], .ok value.toValue⟩ := by
  rw [propertyValue, if_pos h]
  rfl

theorem propertyValue_of_exposed (hmode : r.mode key ≠ .literal) (hvalue : value.reference? = none) :
    c.propertyValue r key value options = ⟨[.ofVariable (c.variableFor key value options)],
      .ok (.expression ("var." ++ (c.variableFor key value options).name))⟩ := by
  rw [propertyValue, if_neg (by simp [hmode, hvalue])]
  rfl

/-- What is expected of a property in a block: a variable that it becomes has a constant default, and
a property that is asked for as it is, or that holds a reference, becomes none and is written as it
is. -/
structure ClosesVariables : Prop where
  constant : ∀ v, .ofVariable v ∈ (c.propertyValue r key value options).declared →
    ∀ p, v.default = some p → ∀ e, ¬p.Mentions e
  inline : (r.mode key = .literal ∨ ∃ e, value.Mentions e) →
    c.propertyValue r key value options = ⟨[], .ok value.toValue⟩

variable {c r key value options}

theorem closesVariables_of_inline (h : r.mode key = .literal ∨ value.reference?.isSome) :
    c.ClosesVariables r key value options := by
  have heq := c.propertyValue_of_inline r key value options h
  refine ⟨fun v hv => ?_, fun _ => heq⟩
  rw [heq] at hv
  exact absurd hv List.not_mem_nil

theorem closesVariables_of_constant (hmode : r.mode key ≠ .literal)
    (hconstant : ∀ e, ¬value.Mentions e) : c.ClosesVariables r key value options where
  constant := by
    intro v hv p hp
    have hvalue : value.reference? = none := by
      cases value with
      | reference e => exact absurd .reference (hconstant e)
      | _ => rfl
    rw [c.propertyValue_of_exposed r key value options hmode hvalue] at hv
    cases List.mem_singleton.mp hv
    cases hp
    exact hconstant
  inline := by
    rintro (h | ⟨e, h⟩)
    · exact absurd h hmode
    · exact absurd h (hconstant e)

theorem not_closesVariables {items : List Property} {e : String} (hmode : r.mode key ≠ .literal)
    (h : (Property.list items).Mentions e) : ¬c.ClosesVariables r key (.list items) options := by
  intro hcloses
  have hdeclared : .ofVariable (c.variableFor key (.list items) options) ∈
      (c.propertyValue r key (.list items) options).declared := by
    rw [c.propertyValue_of_exposed r key (.list items) options hmode rfl]
    exact List.mem_cons_self
  exact hcloses.constant _ hdeclared _ rfl e h

/-- A property that the user has not made a variable, and a reference, is written as it is. Any other
becomes the default of a variable, with all its references. So variables stay closed just if the
property is no list in which a reference stands. -/
theorem propertyValue_closes_variables_iff (c : Context) (r : Resource) (key : String)
    (value : Property) (options : VariableOptions) :
    (r.mode key = .literal ∨ value.reference?.isSome →
      c.propertyValue r key value options = ⟨[], .ok value.toValue⟩) ∧
    (r.mode key ≠ .literal → value.reference? = none →
      ∃ v, c.propertyValue r key value options =
          ⟨[.ofVariable v], .ok (.expression ("var." ++ v.name))⟩ ∧
        v.default = some value ∧ ∀ e, e ∈ v.toBlock.expressions ↔ value.Mentions e) ∧
    (c.ClosesVariables r key value options ↔
      ¬(r.mode key = .exposed ∧ ∃ items e, value = .list items ∧ value.Mentions e)) := by
  refine ⟨c.propertyValue_of_inline r key value options, fun hmode hvalue => ?_, ?_, ?_⟩
  · refine ⟨_, c.propertyValue_of_exposed r key value options hmode hvalue, rfl, fun e => ?_⟩
    simp [Variable.mem_expressions_toBlock_iff, variableFor]
  · rintro hcloses ⟨hmode, items, e, rfl, he⟩
    exact not_closesVariables (by simp [hmode]) he hcloses
  · intro h
    by_cases hinline : r.mode key = .literal ∨ value.reference?.isSome
    · exact closesVariables_of_inline hinline
    · obtain ⟨hmode, hvalue⟩ := not_or.mp hinline
      have hexposed : r.mode key = .exposed := by
        cases hr : r.mode key with
        | literal => exact absurd hr hmode
        | exposed => rfl
      refine closesVariables_of_constant hmode fun e he => ?_
      rcases he.reference_or_list with href | ⟨items, rfl⟩
      · exact hvalue href
      · exact h ⟨hexposed, items, e, rfl, he⟩

end Context

def otherGroup : String := "azurerm_resource_group.other.name"

def groupContext : Context where
  identity := ⟨"main", "main", none⟩
  members := []
  naming := {}
  project := {}

def exposingGroup : Resource where
  id := "rg"
  typeId := "azurerm/core/resource_group"
  name := "main"
  modes := Dictionary.empty.insert "parents" .exposed

/-- The reference in the list becomes part of the default of a variable. -/
theorem reference_in_default : ∃ v,
    groupContext.propertyValue exposingGroup "parents" (.list [.reference otherGroup]) =
        ⟨[.ofVariable v], .ok (.expression "var.main_parents")⟩ ∧
      v.default = some (.list [.reference otherGroup]) ∧
      otherGroup ∈ v.toBlock.expressions ∧
      ¬groupContext.ClosesVariables exposingGroup "parents" (.list [.reference otherGroup]) {} := by
  have hmode : exposingGroup.mode "parents" ≠ .literal := by decide
  have hmentions : (Property.list [.reference otherGroup]).Mentions otherGroup :=
    .item List.mem_cons_self .reference
  refine ⟨groupContext.variableFor "parents" (.list [.reference otherGroup]) {}, ?_, rfl, ?_,
    Context.not_closesVariables hmode hmentions⟩
  · exact groupContext.propertyValue_of_exposed exposingGroup "parents" _ {} hmode rfl
  · exact Variable.mem_expressions_toBlock_iff.mpr ⟨_, rfl, hmentions⟩

end Groundplan
