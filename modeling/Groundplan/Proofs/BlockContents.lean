import Groundplan.Diagram.Property

/-!
# The contents of blocks

The attributes of a block at any depth and the expressions in their values, and how the ways of
building a block add to them. A key that is new goes to the end, so a block that is built from
distinct keys holds them in the order in which they were set.
-/

namespace Groundplan

mutual

/-- The expressions that stand anywhere in a value. -/
def Value.expressions : Value → List String
  | .expression e => [e]
  | .list items => Value.itemExpressions items
  | .object entries => Value.entryExpressions entries
  | .string _ | .number _ | .bool _ => []

def Value.itemExpressions : List Value → List String
  | [] => []
  | item :: items => item.expressions ++ Value.itemExpressions items

def Value.entryExpressions : List (String × Value) → List String
  | [] => []
  | (_, value) :: entries => value.expressions ++ Value.entryExpressions entries

end

mutual

/-- The attributes of a block and of the blocks nested in it, in the order in which they stand. -/
def Block.attributes : Block → List (String × Value)
  | ⟨_, _, body⟩ => bodyAttributes body

def bodyAttributes : List BodyItem → List (String × Value)
  | [] => []
  | .setting key value :: rest => (key, value) :: bodyAttributes rest
  | .block content :: rest => content.attributes ++ bodyAttributes rest

end

theorem bodyAttributes_append (first second : List BodyItem) :
    bodyAttributes (first ++ second) = bodyAttributes first ++ bodyAttributes second := by
  induction first with
  | nil => rfl
  | cons item rest ih =>
    cases item with
    | setting key value => simp [bodyAttributes, ih]
    | block content => simp [bodyAttributes, ih]

theorem setAttribute_of_fresh {key : String} {body : List BodyItem}
    (h : body.findSome? (·.valueAt? key) = none) (value : Value) :
    setAttribute key value body = body ++ [.setting key value] := by
  induction body with
  | nil => rfl
  | cons item rest ih =>
    rw [List.findSome?_cons] at h
    cases hitem : item.valueAt? key with
    | some other => simp [hitem] at h
    | none =>
      have hkey : item.hasKey key = false := by
        cases item with
        | setting other value => simpa [BodyItem.valueAt?, BodyItem.hasKey] using hitem
        | block content => rfl
      rw [hitem] at h
      rw [setAttribute, hkey, if_neg (by simp), ih h, List.cons_append]

namespace Block

variable (b : Block) (key : String)

@[simp] theorem attributes_nest (child : Block) :
    (b.nest child).attributes = b.attributes ++ child.attributes := by
  cases b
  simp [nest, Block.attributes, bodyAttributes_append, bodyAttributes]

theorem attributes_set {b : Block} {key : String} (h : b.get? key = none) (value : Value) :
    (b.set key value).attributes = b.attributes ++ [(key, value)] := by
  cases b
  simp only [set, Block.attributes]
  rw [setAttribute_of_fresh h, bodyAttributes_append]
  rfl

end Block

/-- The attribute with a key, if there is a value for it. -/
def optionalAttribute (key : String) (value : Option Value) : List (String × Value) :=
  (value.map (key, ·)).toList

@[simp] theorem mem_map_fst_optionalAttribute {key other : String} {value : Option Value} :
    other ∈ (optionalAttribute key value).map (·.1) ↔ value.isSome ∧ other = key := by
  cases value <;> simp [optionalAttribute]

theorem expressions_of_mem_flag {key : String} {p : Prop} [Decidable p] {a : String × Value}
    (h : a ∈ optionalAttribute key (if p then some (.bool true) else none)) :
    a.2.expressions = [] := by
  split at h
  · obtain rfl := List.mem_singleton.mp h
    rfl
  · exact absurd h List.not_mem_nil

theorem filter_key_eq_nil {key : String} {attributes : List (String × Value)}
    (h : key ∉ attributes.map (·.1)) : attributes.filter (·.1 == key) = [] := by
  rw [List.filter_eq_nil_iff]
  intro a ha hkey
  exact h (List.mem_map.mpr ⟨a, ha, by simpa using hkey⟩)

/-- Whether a block has the given type and labels, and at any depth the given attributes. -/
structure Block.Declares (b : Block) (type : String) (labels : List String)
    (attributes : List (String × Value)) : Prop where
  type_eq : b.type = type
  labels_eq : b.labels = labels
  attributes_eq : b.attributes = attributes

namespace Block

theorem get?_eq_none_of_notMem {b : Block} {key : String}
    (h : key ∉ b.attributes.map (·.1)) : b.get? key = none := by
  cases b with
  | mk type labels body =>
    rw [get?, List.findSome?_eq_none_iff]
    simp only [Block.attributes] at h
    induction body with
    | nil => simp
    | cons item rest ih =>
      cases item with
      | setting other value =>
        simp only [bodyAttributes, List.map_cons, List.mem_cons, not_or] at h
        intro item hitem
        rcases List.mem_cons.mp hitem with rfl | hitem
        · simp [BodyItem.valueAt?, Ne.symm h.1]
        · exact ih h.2 item hitem
      | block content =>
        simp only [bodyAttributes, List.map_append, List.mem_append, not_or] at h
        intro item hitem
        rcases List.mem_cons.mp hitem with rfl | hitem
        · rfl
        · exact ih h.2 item hitem

namespace Declares

variable {b : Block} {type : String} {labels : List String} {attributes : List (String × Value)}

theorem ofType (type : String) (labels : List String) : (ofType type labels).Declares type labels [] :=
  ⟨rfl, rfl, rfl⟩

theorem resource (terraformType label : String) :
    (resource terraformType label).Declares "resource" [terraformType, label] [] :=
  ⟨rfl, rfl, rfl⟩

theorem set (h : b.Declares type labels attributes) (key : String) (value : Value)
    (hkey : key ∉ attributes.map (·.1)) :
    (b.set key value).Declares type labels (attributes ++ [(key, value)]) where
  type_eq := h.type_eq
  labels_eq := h.labels_eq
  attributes_eq := by
    rw [attributes_set (get?_eq_none_of_notMem (h.attributes_eq ▸ hkey)), h.attributes_eq]

theorem set? (h : b.Declares type labels attributes) (key : String) (value : Option Value)
    (hkey : key ∉ attributes.map (·.1)) :
    (b.set? key value).Declares type labels (attributes ++ optionalAttribute key value) := by
  cases value with
  | none => simpa [optionalAttribute] using h
  | some value => exact h.set key value hkey

theorem set_ite (h : b.Declares type labels attributes) (key : String) (value : Value)
    (p : Prop) [Decidable p] (hkey : key ∉ attributes.map (·.1)) :
    (if p then b.set key value else b).Declares type labels
      (attributes ++ optionalAttribute key (if p then some value else none)) := by
  split
  · exact h.set key value hkey
  · exact h.set? key none hkey

theorem nest (h : b.Declares type labels attributes) (child : Block) :
    (b.nest child).Declares type labels (attributes ++ child.attributes) where
  type_eq := h.type_eq
  labels_eq := h.labels_eq
  attributes_eq := by rw [attributes_nest, h.attributes_eq]

end Declares

end Block

namespace Property

mutual

/-- Whether no reference stands anywhere in the value. -/
def isConstant : Property → Bool
  | .reference _ => false
  | .list items => areConstant items
  | .bool _ | .number _ | .string _ => true

def areConstant : List Property → Bool
  | [] => true
  | item :: items => isConstant item && areConstant items

end

mutual

theorem expressions_toValue : ∀ {p : Property}, p.isConstant = true → p.toValue.expressions = []
  | .bool _, _ | .number _, _ | .string _, _ => rfl
  | .list _, h => itemExpressions_toValues h

theorem itemExpressions_toValues : ∀ {items : List Property}, areConstant items = true →
    Value.itemExpressions (toValues items) = []
  | [], _ => rfl
  | item :: items, h => by
    rw [areConstant, Bool.and_eq_true] at h
    rw [toValues, Value.itemExpressions, expressions_toValue h.1, itemExpressions_toValues h.2]
    rfl

end

theorem reference?_of_isConstant {p : Property} (h : p.isConstant = true) : p.reference? = none := by
  cases p with
  | reference expression => cases h
  | _ => rfl

end Property

end Groundplan
