import Groundplan.Proofs.BlockContents
import Groundplan.Proofs.WorkingCopies
import Groundplan.Text.Identifier

/-!
# Where references come from

If the nodes of a diagram hold no references of their own, the only ones that a generator gets to see
are those that edges have written: expressions for attributes of resources that have an address.
-/

namespace Groundplan

/-- Whether an expression names an attribute of something at one of the given addresses. -/
def RefersTo (addresses : List String) (e : String) : Prop :=
  ∃ address ∈ addresses, ∃ name, Text.isBareWord name = true ∧
    e = address ++ "." ++ name

theorem RefersTo.mono {fewer all : List String} (h : fewer ⊆ all) {e : String}
    (he : RefersTo fewer e) : RefersTo all e := by
  obtain ⟨address, haddress, name, hword, rfl⟩ := he
  exact ⟨address, h haddress, name, hword, rfl⟩

/-- The addresses of blocks that have one. -/
def Block.addresses (blocks : List Block) : List String := blocks.filterMap (·.address?)

theorem Block.Declares.address?_resource {b : Block} {type label : String}
    {attributes : List (String × Value)} (h : b.Declares "resource" [type, label] attributes) :
    b.address? = some (type ++ "." ++ label) := by
  simp [Block.address?, h.type_eq, h.labels_eq]

theorem Block.Declares.address?_data {b : Block} {type label : String}
    {attributes : List (String × Value)} (h : b.Declares "data" [type, label] attributes) :
    b.address? = some ("data." ++ type ++ "." ++ label) := by
  simp [Block.address?, h.type_eq, h.labels_eq]

theorem Block.mem_addresses {blocks : List Block} {b : Block} (hb : b ∈ blocks) {address : String}
    (h : b.address? = some address) : address ∈ Block.addresses blocks :=
  List.mem_filterMap.mpr ⟨b, hb, h⟩

/-- Whether a property holds of all expressions in the values of some attributes. -/
def AttributesHold (P : String → Prop) (attributes : List (String × Value)) : Prop :=
  ∀ a ∈ attributes, ∀ e ∈ a.2.expressions, P e

namespace AttributesHold

variable {P : String → Prop}

theorem nil : AttributesHold P [] := fun _ h => absurd h List.not_mem_nil

theorem append {first second : List (String × Value)} (hf : AttributesHold P first)
    (hs : AttributesHold P second) : AttributesHold P (first ++ second) := by
  intro a ha
  rcases List.mem_append.mp ha with ha | ha
  · exact hf a ha
  · exact hs a ha

theorem cons {key : String} {value : Value} {rest : List (String × Value)}
    (hv : ∀ e ∈ value.expressions, P e) (hr : AttributesHold P rest) :
    AttributesHold P ((key, value) :: rest) := by
  intro a ha
  rcases List.mem_cons.mp ha with rfl | ha
  · exact hv
  · exact hr a ha

theorem single {key : String} {value : Value} (hv : ∀ e ∈ value.expressions, P e) :
    AttributesHold P [(key, value)] :=
  cons hv nil

theorem optional {key : String} {value : Option Value}
    (h : ∀ v, value = some v → ∀ e ∈ v.expressions, P e) :
    AttributesHold P (optionalAttribute key value) := by
  cases value with
  | none => exact nil
  | some v => exact single (h v rfl)

theorem of_plain {attributes : List (String × Value)}
    (h : ∀ a ∈ attributes, a.2.expressions = []) : AttributesHold P attributes := by
  intro a ha e he
  rw [h a ha] at he
  exact absurd he List.not_mem_nil

end AttributesHold

theorem plain_string {P : String → Prop} (s : String) : ∀ e ∈ (Value.string s).expressions, P e :=
  fun _ h => absurd h List.not_mem_nil

/-- Whether a value is a constant or a reference to something at one of the given addresses. -/
def Property.ClosedOver (addresses : List String) (p : Property) : Prop :=
  p.isConstant = true ∨ ∃ e, p = .reference e ∧ RefersTo addresses e

/-- Whether all properties of a resource are constants or references to the given addresses. -/
def Resource.ClosedOver (addresses : List String) (r : Resource) : Prop :=
  ∀ key value, r.property? key = some value → value.ClosedOver addresses

def Member.addresses (members : List Member) : List String :=
  members.filterMap (·.identity.address?)

theorem Property.ClosedOver.expressions {addresses : List String} {p : Property}
    (h : p.ClosedOver addresses) : ∀ e ∈ p.toValue.expressions, RefersTo addresses e := by
  rcases h with hconstant | ⟨e, rfl, he⟩
  · rw [Property.expressions_toValue hconstant]
    exact fun _ h => absurd h List.not_mem_nil
  · intro other hother
    obtain rfl := List.mem_singleton.mp hother
    exact he

theorem Resource.ClosedOver.present? {addresses : List String} {r : Resource}
    (h : r.ClosedOver addresses) {key : String} {value : Property}
    (hvalue : r.present? key = some value) : value.ClosedOver addresses := by
  obtain ⟨hproperty, _⟩ := Option.filter_eq_some_iff.mp hvalue
  exact h key value hproperty

theorem Identity.closedOver_reference {i : Identity} {addresses : List String} {name : String}
    (haddress : ∀ address, i.address? = some address → address ∈ addresses)
    (hword : Text.isBareWord name = true) :
    (i.reference name).ClosedOver addresses := by
  unfold Identity.reference
  split
  · rename_i address h
    exact .inr ⟨_, rfl, address, haddress address h, name, hword, rfl⟩
  · exact .inl rfl

theorem Edge.writing?_eq_some {rules : List Rule} {members : List Member} {edge : Edge}
    {w : Writing} (h : edge.writing? rules members = some w) :
    ∃ source ∈ members, ∃ target ∈ members, ∃ rule ∈ rules, ∃ directive,
      Member.find? members edge.source = some source ∧
      Member.find? members edge.target = some target ∧
      rule.endpoints = edge.endpoints source.resource target.resource ∧
      rule.reference = some directive ∧ w = directive.writing source target := by
  unfold Edge.writing? at h
  split at h
  · rename_i source target hsource htarget
    obtain ⟨directive, hdirective, rfl⟩ := Option.map_eq_some_iff.mp h
    obtain ⟨rule, hrule, hreference⟩ := Option.bind_eq_some_iff.mp hdirective
    rw [Rule.rule?_resolve] at hrule
    obtain ⟨hmem, hallows⟩ := List.mem_filter.mp (List.mem_of_mem_head? hrule)
    exact ⟨source, List.mem_of_find?_eq_some hsource, target, List.mem_of_find?_eq_some htarget,
      rule, hmem, directive, hsource, htarget, by simpa [Rule.allows] using hallows, hreference,
      rfl⟩
  · cases h

theorem ReferenceDirective.closedOver_writing {directive : ReferenceDirective}
    {source target : Member} {members : List Member} (hs : source ∈ members)
    (ht : target ∈ members) (hword : Text.isBareWord directive.attributeOrId = true) :
    (directive.writing source target).value.ClosedOver (Member.addresses members) := by
  have hmember : ∀ member ∈ members, ∀ address, member.identity.address? = some address →
      address ∈ Member.addresses members := fun member hm address h =>
    List.mem_filterMap.mpr ⟨member, hm, h⟩
  unfold ReferenceDirective.writing
  cases directive.side with
  | source => exact Identity.closedOver_reference (hmember target ht) hword
  | target => exact Identity.closedOver_reference (hmember source hs) hword

/-- A diagram without references of its own has working copies whose references all lead to members
of the diagram. -/
theorem Diagram.closedOver_workingCopy {d : Diagram} {catalog : Catalog}
    (hrules : ∀ rule ∈ catalog.rules, ∀ directive ∈ rule.reference,
      Text.isBareWord directive.attributeOrId = true)
    (hdefaults : ∀ typeId type, catalog.types.get? typeId = some type →
      ∀ s ∈ type.schema, ∀ value ∈ s.default, value.isConstant = true)
    {member : Member} (hmember : ∀ key value, member.resource.property? key = some value →
      value.isConstant = true) :
    (d.workingCopy catalog member).resource.ClosedOver
      (Member.addresses (d.members catalog.types)) := by
  intro key value h
  rcases Diagram.property?_workingCopy catalog h with ⟨w, hw, _, _, rfl⟩ | h | ⟨type, htype, s, hs,
    _, hdefault⟩
  · obtain ⟨edge, _, hwriting⟩ := List.mem_filterMap.mp hw
    obtain ⟨source, hsource, target, htarget, rule, hrule, directive, _, _, _, hdirective, rfl⟩ :=
      Edge.writing?_eq_some hwriting
    exact directive.closedOver_writing hsource htarget (hrules rule hrule directive hdirective)
  · exact .inl (hmember key value h)
  · exact .inl (hdefaults _ type htype s hs value hdefault)

theorem Diagram.addresses_working {d : Diagram} {catalog : Catalog} (h : d.check = .ok ()) :
    Member.addresses (d.working catalog) = Member.addresses (d.members catalog.types) := by
  have hsame : (fun member : Member => member.identity.address?) ∘ d.workingCopy catalog =
      fun member => member.identity.address? :=
    funext fun member => congrArg (·.address?) (Diagram.identity_workingCopy d catalog member)
  rw [Diagram.working_eq catalog h, Member.addresses, List.filterMap_map, hsame, Member.addresses]

end Groundplan
