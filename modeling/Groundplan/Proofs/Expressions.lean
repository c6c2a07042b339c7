import Groundplan.Compile.Basic
import Groundplan.Proofs.BlockContents

/-!
# The expressions of a document

The expressions that stand in the blocks of a configuration. Apart from the blocks of resources they
can only come from the settings of providers, the defaults of variables and the values of outputs.
-/

namespace Groundplan

/-- The expressions in the attributes of a block at any depth. The type of a variable is not one of
them, for it stands for nothing else in the configuration. -/
def Block.expressions (b : Block) : List String :=
  (b.attributes.filter fun a => !(b.type == "variable" && a.1 == "type")).flatMap (·.2.expressions)

def Compiled.expressions (c : Compiled) : List String := c.documentBlocks.flatMap (·.expressions)

/-- Whether no expression stands in a block. -/
def Block.IsPlain (b : Block) : Prop := ∀ a ∈ b.attributes, a.2.expressions = []

namespace Block

theorem mem_expressions {b : Block} {e : String} : e ∈ b.expressions ↔
    ∃ a ∈ b.attributes, ¬(b.type = "variable" ∧ a.1 = "type") ∧ e ∈ a.2.expressions := by
  simp only [expressions, List.mem_flatMap, List.mem_filter, Bool.not_eq_true', Bool.and_eq_false_iff,
    beq_eq_false_iff_ne, Classical.not_and_iff_not_or_not, and_assoc, ne_eq]

theorem mem_setAttribute {key : String} {value : Value} {body : List BodyItem}
    {a : String × Value} (h : a ∈ bodyAttributes (setAttribute key value body)) :
    a = (key, value) ∨ a ∈ bodyAttributes body := by
  induction body with
  | nil => simpa [setAttribute, bodyAttributes] using h
  | cons item rest ih =>
    cases item with
    | setting other otherValue =>
      rw [setAttribute] at h
      split at h
      · rcases List.mem_cons.mp h with h | h
        · exact .inl h
        · exact .inr (List.mem_cons_of_mem _ h)
      · rcases List.mem_cons.mp h with h | h
        · exact .inr (h ▸ List.mem_cons_self)
        · exact (ih h).imp id (List.mem_cons_of_mem _)
    | block content =>
      have hstep : setAttribute key value (.block content :: rest) =
          .block content :: setAttribute key value rest := rfl
      rw [hstep, bodyAttributes] at h
      rcases List.mem_append.mp h with h | h
      · exact .inr (List.mem_append_left _ h)
      · exact (ih h).imp id (List.mem_append_right _)

namespace IsPlain

variable {b : Block}

theorem notMem_expressions (h : b.IsPlain) (e : String) : e ∉ b.expressions := by
  intro he
  obtain ⟨a, ha, _, hmem⟩ := mem_expressions.mp he
  rw [h a ha] at hmem
  exact absurd hmem List.not_mem_nil

theorem ofType (type : String) (labels : List String) : (ofType type labels).IsPlain :=
  fun _ h => absurd h List.not_mem_nil

theorem set (h : b.IsPlain) (key : String) {value : Value} (hvalue : value.expressions = []) :
    (b.set key value).IsPlain := by
  intro a ha
  cases b with
  | mk type labels body =>
    rcases mem_setAttribute ha with rfl | ha
    · exact hvalue
    · exact h a ha

theorem set? (h : b.IsPlain) (key : String) {value : Option Value}
    (hvalue : ∀ v, value = some v → v.expressions = []) : (b.set? key value).IsPlain := by
  cases value with
  | none => exact h
  | some v => exact h.set key (hvalue v rfl)

theorem nest (h : b.IsPlain) {child : Block} (hchild : child.IsPlain) : (b.nest child).IsPlain := by
  intro a ha
  rw [attributes_nest] at ha
  rcases List.mem_append.mp ha with ha | ha
  · exact h a ha
  · exact hchild a ha

theorem foldl {α : Type} {f : Block → α → Block}
    (hf : ∀ b : Block, b.IsPlain → ∀ item, (f b item).IsPlain) (items : List α) (h : b.IsPlain) :
    (items.foldl f b).IsPlain := by
  induction items generalizing b with
  | nil => exact h
  | cons item items ih => exact ih (hf b h item)

end IsPlain

end Block

theorem ProviderBlocks.isPlain_terraformBlock (p : ProviderBlocks) (project : Project) :
    (p.terraformBlock project).IsPlain := by
  have hstart : ((Block.ofType "terraform" []).set "required_version"
      (.string project.terraformVersion)).IsPlain := (Block.IsPlain.ofType _ _).set _ rfl
  have hrequired : (p.required.foldl (fun block r => block.set r.name r.value)
      (Block.ofType "required_providers" [])).IsPlain :=
    .foldl (fun _ hb _ => hb.set _ rfl) _ (.ofType _ _)
  have hbackend : ∀ backend : Backend, (backend.config.entries.foldl
      (fun block entry => block.set entry.1 (.string entry.2))
      (Block.ofType "backend" [backend.type])).IsPlain := fun _ =>
    .foldl (fun _ hb _ => hb.set _ rfl) _ (.ofType _ _)
  have hwith : (if p.required.isEmpty then (Block.ofType "terraform" []).set "required_version"
      (.string project.terraformVersion) else ((Block.ofType "terraform" []).set "required_version"
        (.string project.terraformVersion)).nest (p.required.foldl (fun block r =>
          block.set r.name r.value) (Block.ofType "required_providers" []))).IsPlain := by
    split
    · exact hstart
    · exact hstart.nest hrequired
  unfold terraformBlock
  dsimp only
  split
  · exact hwith
  · exact hwith.nest (hbackend _)

theorem Value.entryExpressions_string (tags : List (String × String)) :
    Value.entryExpressions (tags.map fun tag => (tag.1, .string tag.2)) = [] := by
  induction tags with
  | nil => rfl
  | cons tag tags ih => exact ih

theorem Project.isPlain_localsBlock? {p : Project} {b : Block} (h : p.localsBlock? = some b) :
    b.IsPlain := by
  unfold localsBlock? at h
  split at h
  · cases h
  · cases h
    exact (Block.IsPlain.ofType _ _).set _ (Value.entryExpressions_string _)

theorem Variable.declares_toBlock (v : Variable) : v.toBlock.Declares "variable" [v.name]
    ([("type", .expression v.type), ("description", .string v.description)] ++
      optionalAttribute "default" (v.default.map (·.toValue)) ++
      optionalAttribute "sensitive" (if v.sensitive then some (.bool true) else none)) := by
  have hdescribed := ((Block.Declares.ofType "variable" [v.name]).set "type" (.expression v.type)
    (by simp)).set "description" (.string v.description) (by simp)
  have hdefault := hdescribed.set? "default" (v.default.map (·.toValue)) (by simp)
  exact hdefault.set_ite "sensitive" (.bool true) v.sensitive (by simp)

theorem Variable.mem_expressions_toBlock {v : Variable} {e : String}
    (h : e ∈ v.toBlock.expressions) : ∃ p, v.default = some p ∧ e ∈ p.toValue.expressions := by
  obtain ⟨a, ha, hkey, he⟩ := Block.mem_expressions.mp h
  rw [v.declares_toBlock.attributes_eq] at ha
  rcases List.mem_append.mp ha with ha | ha
  · rcases List.mem_append.mp ha with ha | ha
    · rcases List.mem_cons.mp ha with rfl | ha
      · exact absurd ⟨v.declares_toBlock.type_eq, rfl⟩ hkey
      · obtain rfl := List.mem_singleton.mp ha
        exact absurd he List.not_mem_nil
    · obtain ⟨value, hvalue, rfl⟩ := Option.map_eq_some_iff.mp (Option.mem_toList.mp ha)
      obtain ⟨p, hp, rfl⟩ := Option.map_eq_some_iff.mp hvalue
      exact ⟨p, hp, he⟩
  · rw [expressions_of_mem_flag ha] at he
    exact absurd he List.not_mem_nil

theorem Output.declares_toBlock (o : Output) : o.toBlock.Declares "output" [o.name]
    ([("value", .expression o.value), ("description", .string o.description)] ++
      optionalAttribute "sensitive" (if o.sensitive then some (.bool true) else none)) := by
  have hdescribed := ((Block.Declares.ofType "output" [o.name]).set "value" (.expression o.value)
    (by simp)).set "description" (.string o.description) (by simp)
  exact hdescribed.set_ite "sensitive" (.bool true) o.sensitive (by simp)

theorem Output.eq_of_mem_expressions_toBlock {o : Output} {e : String}
    (h : e ∈ o.toBlock.expressions) : e = o.value := by
  obtain ⟨a, ha, _, he⟩ := Block.mem_expressions.mp h
  rw [o.declares_toBlock.attributes_eq] at ha
  rcases List.mem_append.mp ha with ha | ha
  · rcases List.mem_cons.mp ha with rfl | ha
    · exact List.mem_singleton.mp he
    · obtain rfl := List.mem_singleton.mp ha
      exact absurd he List.not_mem_nil
  · rw [expressions_of_mem_flag ha] at he
    exact absurd he List.not_mem_nil

end Groundplan
