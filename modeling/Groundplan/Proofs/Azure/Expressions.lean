import Groundplan.Proofs.Azure.Generators
import Groundplan.Proofs.Azure.Registered
import Groundplan.Proofs.References

/-!
# The expressions of Azure blocks

A generator that gets a resource whose references lead to members of the diagram emits nothing but
expressions for such members, for its own blocks, for variables that it declares, and for the tags
of the project.
-/

namespace Groundplan.Azure

section Values

variable {r : Resource} {addresses : List String}

theorem point_notMem_of_isBareWord {name : String} (h : Text.isBareWord name = true) :
    '.' ∉ name.toList := by
  unfold Text.isBareWord at h
  split at h
  · cases h
  · rename_i first rest heq
    rw [Bool.and_eq_true, List.all_eq_true] at h
    rw [heq]
    intro hmem
    rcases List.mem_cons.mp hmem with hfirst | hrest
    · rw [← hfirst] at h
      exact absurd h.1 (by decide)
    · exact absurd (h.2 '.' hrest) (by decide)

theorem siblingAttribute?_append {address name other : String} (h : Text.isBareWord name = true) :
    siblingAttribute? (address ++ "." ++ name) other = some (address ++ "." ++ other) := by
  have hchars : (address ++ "." ++ name).toList = address.toList ++ '.' :: name.toList := by
    simp
  rw [siblingAttribute?, hchars, beforeLastPoint_append _ _ (point_notMem_of_isBareWord h)]
  simp

theorem besideReference?_closed (hr : r.ClosedOver addresses) {key other : String}
    (hother : Text.isBareWord other = true) {value : Value}
    (h : besideReference? r key other = some value) :
    ∀ e ∈ value.expressions, RefersTo addresses e := by
  obtain ⟨sibling, hsibling, rfl⟩ := Option.map_eq_some_iff.mp h
  obtain ⟨expression, hexpression, hbeside⟩ := Option.bind_eq_some_iff.mp hsibling
  obtain ⟨property, hproperty, hreference⟩ := Option.bind_eq_some_iff.mp hexpression
  intro e he
  obtain rfl := List.mem_singleton.mp he
  rcases hr key property hproperty with hconstant | ⟨_, rfl, address, haddress, name, hname, rfl⟩
  · rw [Property.reference?_of_isConstant hconstant] at hreference
    cases hreference
  · cases hreference
    rw [siblingAttribute?_append hname] at hbeside
    cases hbeside
    exact ⟨address, haddress, other, hother, rfl⟩

theorem present?_closed (hr : r.ClosedOver addresses) {key : String} {value : Property}
    (h : r.present? key = some value) : ∀ e ∈ value.toValue.expressions, RefersTo addresses e :=
  (hr.present? h).expressions

theorem resourceGroupName_eq_ok_iff {value : Value} : resourceGroupName r = .ok value ↔
    ∃ property, r.present? "resource_group_name" = some property ∧ property.toValue = value := by
  unfold resourceGroupName Resource.require
  cases r.present? "resource_group_name" <;> simp [Functor.map, Except.map]

theorem resourceGroupName_closed (hr : r.ClosedOver addresses) {value : Value}
    (h : resourceGroupName r = .ok value) : ∀ e ∈ value.expressions, RefersTo addresses e := by
  obtain ⟨property, hproperty, rfl⟩ := resourceGroupName_eq_ok_iff.mp h
  exact present?_closed hr hproperty

theorem location_closed (hr : r.ClosedOver addresses) {value : Value}
    (h : location r = .ok value) : ∀ e ∈ value.expressions, RefersTo addresses e := by
  unfold location at h
  split at h
  · rename_i property _ hproperty
    cases h
    exact present?_closed hr hproperty
  · rename_i beside _ hbeside
    cases h
    exact besideReference?_closed hr (by decide) hbeside
  · cases h

theorem subnetResourceGroup_closed (hr : r.ClosedOver addresses) {value : Value}
    (h : subnetResourceGroup r = .ok value) : ∀ e ∈ value.expressions, RefersTo addresses e := by
  unfold subnetResourceGroup at h
  split at h
  · rename_i group hgroup
    cases h
    exact resourceGroupName_closed hr hgroup
  · split at h
    · rename_i beside hbeside
      cases h
      exact besideReference?_closed hr (by decide) hbeside
    · cases h

end Values

/-- What an expression may stand for in the blocks of one resource. -/
def Supported (addresses : List String) (c : Context) (declared : List Declaration)
    (e : String) : Prop :=
  (e = "local.common_tags" ∧ c.commonTags?.isSome) ∨
    (∃ v, .ofVariable v ∈ declared ∧ e = "var." ++ v.name) ∨ RefersTo addresses e

section Attributes

variable {r : Resource} {c : Context} {declared : List Declaration} {addresses : List String}

theorem tagging_supported :
    AttributesHold (Supported addresses c declared) (tagging c) := by
  apply AttributesHold.optional
  intro value hvalue e he
  unfold Context.commonTags? at hvalue
  split at hvalue
  · cases hvalue
  · rename_i htags
    cases hvalue
    obtain rfl := List.mem_singleton.mp he
    exact .inl ⟨rfl, by simp [Context.commonTags?, htags]⟩

theorem copied_supported (hr : r.ClosedOver addresses) (key : String) :
    AttributesHold (Supported addresses c declared) (copied r key) := by
  apply AttributesHold.optional
  intro value hvalue e he
  obtain ⟨property, hproperty, rfl⟩ := Option.map_eq_some_iff.mp hvalue
  exact .inr (.inr (present?_closed hr hproperty e he))

theorem placement_supported (hr : r.ClosedOver addresses) {group place : Value}
    (hgroup : resourceGroupName r = .ok group) (hplace : location r = .ok place) :
    AttributesHold (Supported addresses c declared) (placement c group place) :=
  .cons (plain_string _) (.cons (fun e he => .inr (.inr (resourceGroupName_closed hr hgroup e he)))
    (.single fun e he => .inr (.inr (location_closed hr hplace e he))))

theorem closedOver_settingProperty (hr : r.ClosedOver addresses) (key fallback : String) :
    (settingProperty r key fallback).ClosedOver addresses := by
  unfold settingProperty
  cases h : r.present? key with
  | none => exact .inl rfl
  | some value => exact hr.present? h

theorem settingAttribute_supported (hr : r.ClosedOver addresses) {key fallback : String}
    (hdeclared : ∀ v, settingVariable? r c key fallback = some v → .ofVariable v ∈ declared) :
    AttributesHold (Supported addresses c declared) [settingAttribute r c key fallback] := by
  apply AttributesHold.single
  intro e he
  cases hv : settingVariable? r c key fallback with
  | none =>
    rw [hv] at he
    exact .inr (.inr ((closedOver_settingProperty hr key fallback).expressions e he))
  | some v =>
    rw [hv] at he
    exact .inr (.inl ⟨v, hdeclared v hv, List.mem_singleton.mp he⟩)

theorem default_settingVariable? (hr : r.ClosedOver addresses) {key fallback : String}
    {v : Variable} (h : settingVariable? r c key fallback = some v) :
    ∃ p, v.default = some p ∧ p.isConstant = true := by
  unfold settingVariable? Context.exposure? at h
  split at h
  · cases h
  · rename_i hmode
    cases h
    refine ⟨_, rfl, ?_⟩
    rcases closedOver_settingProperty hr key fallback with hconstant | ⟨e, he, _⟩
    · exact hconstant
    · rw [he] at hmode
      exact absurd (Or.inr rfl) hmode

end Attributes

end Groundplan.Azure
