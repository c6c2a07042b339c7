import Groundplan.Generation.Declaration

/-!
# Collected declarations

Collecting keeps the first item of every name and nothing else, and taking back what came after a
mark restores the collections as they were when the mark was set.
-/

namespace Groundplan

section Named

variable {α : Type} (name : α → String)

theorem find?_eq_some_iff_of_nodup {items : List α} (hn : (items.map name).Nodup) {key : String}
    {item : α} : items.find? (name · == key) = some item ↔ item ∈ items ∧ name item = key := by
  constructor
  · intro h
    exact ⟨List.mem_of_find?_eq_some h, by simpa using List.find?_some h⟩
  · rintro ⟨hmem, rfl⟩
    induction items with
    | nil => exact absurd hmem List.not_mem_nil
    | cons head rest ih =>
      obtain ⟨hhead, hrest⟩ := List.nodup_cons.mp hn
      rcases List.mem_cons.mp hmem with rfl | hmem
      · simp
      · have hne : name head ≠ name item := fun heq =>
          hhead (List.mem_map.mpr ⟨item, hmem, heq.symm⟩)
        rw [List.find?_cons_of_neg (by simpa using hne)]
        exact ih hrest hmem

theorem filter_eq_toList_find?_of_nodup {items : List α} (hn : (items.map name).Nodup)
    (key : String) :
    items.filter (name · == key) = (items.find? (name · == key)).toList := by
  induction items with
  | nil => rfl
  | cons head rest ih =>
    obtain ⟨hhead, hrest⟩ := List.nodup_cons.mp hn
    by_cases h : name head = key
    · have hothers : rest.filter (name · == key) = [] := by
        rw [List.filter_eq_nil_iff]
        intro other hother
        have hne : name other ≠ key := fun heq =>
          hhead (List.mem_map.mpr ⟨other, hother, heq.trans h.symm⟩)
        simpa using hne
      rw [List.filter_cons_of_pos (by simpa using h), List.find?_cons_of_pos (by simpa using h),
        hothers]
      rfl
    · rw [List.filter_cons_of_neg (by simpa using h), List.find?_cons_of_neg (by simpa using h),
        ih hrest]

/-- The items of a list that stand first under their names. -/
def firstNamed : List α → List α
  | [] => []
  | item :: items => item :: (firstNamed items).filter fun other => name other != name item

theorem mem_of_mem_firstNamed {items : List α} {item : α} (h : item ∈ firstNamed name items) :
    item ∈ items := by
  induction items with
  | nil => exact h
  | cons head rest ih =>
    rcases List.mem_cons.mp h with rfl | h
    · exact List.mem_cons_self
    · exact List.mem_cons_of_mem _ (ih (List.mem_filter.mp h).1)

theorem nodup_map_firstNamed (items : List α) : ((firstNamed name items).map name).Nodup := by
  induction items with
  | nil => exact List.nodup_nil
  | cons head rest ih =>
    simp only [firstNamed, List.map_cons, List.nodup_cons]
    refine ⟨?_, ih.sublist (List.filter_sublist.map name)⟩
    intro hmem
    obtain ⟨other, hother, heq⟩ := List.mem_map.mp hmem
    have hne := (List.mem_filter.mp hother).2
    simp [heq] at hne

theorem find?_firstNamed (items : List α) (key : String) :
    (firstNamed name items).find? (name · == key) = items.find? (name · == key) := by
  induction items with
  | nil => rfl
  | cons head rest ih =>
    by_cases h : name head = key
    · simp [firstNamed, h]
    · have hkept : (fun other => decide ((name other != name head) = true ∧
          (name other == key) = true)) = fun other => name other == key := by
        funext other
        by_cases ho : name other = key
        · simp [ho, Ne.symm h]
        · simp [ho]
      rw [firstNamed, List.find?_cons_of_neg (by simp [h]), List.find?_cons_of_neg (by simp [h]),
        List.find?_filter, hkept, ih]

theorem filter_firstNamed (items : List α) (key : String) :
    (firstNamed name items).filter (name · == key) =
      (items.find? (name · == key)).toList := by
  rw [filter_eq_toList_find?_of_nodup name (nodup_map_firstNamed name items),
    find?_firstNamed]

theorem exists_append_foldl_addNamed (kept items : List α) :
    ∃ added, items.foldl (addNamed name) kept = kept ++ added := by
  induction items generalizing kept with
  | nil => exact ⟨[], by simp⟩
  | cons item items ih =>
    obtain ⟨first, hfirst⟩ := exists_append_addNamed name kept item
    obtain ⟨rest, hrest⟩ := ih (addNamed name kept item)
    exact ⟨first ++ rest, by rw [List.foldl_cons, hrest, hfirst, List.append_assoc]⟩

theorem foldl_addNamed (kept items : List α) :
    items.foldl (addNamed name) kept =
      kept ++ (firstNamed name items).filter fun item => !kept.any (name · == name item) := by
  induction items generalizing kept with
  | nil => simp [firstNamed]
  | cons item items ih =>
    rw [List.foldl_cons, ih, addNamed]
    by_cases htaken : kept.any (name · == name item) = true
    · rw [if_pos htaken, firstNamed, List.filter_cons, if_neg (by simp [htaken]),
        List.filter_filter]
      congr 1
      apply List.filter_congr
      intro other _
      by_cases heq : name other = name item
      · simp [heq, htaken]
      · simp [heq]
    · rw [if_neg htaken, firstNamed, List.filter_cons, if_pos (by simpa using htaken),
        List.filter_filter, List.append_assoc, List.singleton_append]
      congr 2
      apply List.filter_congr
      intro other _
      simp [bne, Bool.beq_comm]

theorem foldl_addNamed_nil (items : List α) :
    items.foldl (addNamed name) [] = firstNamed name items := by
  simp [foldl_addNamed]

theorem firstNamed_prefix (items more : List α) :
    firstNamed name items <+: firstNamed name (items ++ more) := by
  obtain ⟨added, hadded⟩ := exists_append_foldl_addNamed name (firstNamed name items) more
  refine ⟨added, ?_⟩
  rw [← hadded, ← foldl_addNamed_nil name items, ← List.foldl_append, foldl_addNamed_nil]

end Named

def Declaration.toVariable? : Declaration → Option Variable
  | .ofVariable v => some v
  | .ofOutput _ => none

def Declaration.toOutput? : Declaration → Option Output
  | .ofVariable _ => none
  | .ofOutput o => some o

theorem Declaration.mem_filterMap_toVariable? {declared : List Declaration} {v : Variable} :
    v ∈ declared.filterMap (·.toVariable?) ↔ .ofVariable v ∈ declared := by
  rw [List.mem_filterMap]
  constructor
  · rintro ⟨declaration, hmem, hvariable⟩
    cases declaration <;> cases hvariable
    exact hmem
  · exact fun hmem => ⟨_, hmem, rfl⟩

theorem Declaration.mem_filterMap_toOutput? {declared : List Declaration} {o : Output} :
    o ∈ declared.filterMap (·.toOutput?) ↔ .ofOutput o ∈ declared := by
  rw [List.mem_filterMap]
  constructor
  · rintro ⟨declaration, hmem, houtput⟩
    cases declaration <;> cases houtput
    exact hmem
  · exact fun hmem => ⟨_, hmem, rfl⟩

namespace Declarations

theorem variables_addAll (d : Declarations) (declared : List Declaration) :
    (d.addAll declared).variables =
      (declared.filterMap (·.toVariable?)).foldl (addNamed (·.name)) d.variables := by
  induction declared generalizing d with
  | nil => rfl
  | cons head rest ih =>
    have hstep : d.addAll (head :: rest) = (d.add head).addAll rest := rfl
    rw [hstep, ih]
    cases head <;> rfl

theorem outputs_addAll (d : Declarations) (declared : List Declaration) :
    (d.addAll declared).outputs =
      (declared.filterMap (·.toOutput?)).foldl (addNamed (·.name)) d.outputs := by
  induction declared generalizing d with
  | nil => rfl
  | cons head rest ih =>
    have hstep : d.addAll (head :: rest) = (d.add head).addAll rest := rfl
    rw [hstep, ih]
    cases head <;> rfl

theorem addAll_append (d : Declarations) (first second : List Declaration) :
    d.addAll (first ++ second) = (d.addAll first).addAll second :=
  List.foldl_append

/-- Taking back what was declared after a mark undoes exactly that. -/
theorem rollback_addAll (d : Declarations) (declared : List Declaration) :
    (d.addAll declared).rollback d.mark = d := by
  obtain ⟨added, hvariables⟩ := exists_append_foldl_addNamed (·.name) d.variables
    (declared.filterMap (·.toVariable?))
  obtain ⟨others, houtputs⟩ := exists_append_foldl_addNamed (·.name) d.outputs
    (declared.filterMap (·.toOutput?))
  rw [← variables_addAll] at hvariables
  rw [← outputs_addAll] at houtputs
  simp [rollback, mark, hvariables, houtputs]

theorem variables_addAll_empty (declared : List Declaration) :
    (addAll {} declared).variables = firstNamed (·.name) (declared.filterMap (·.toVariable?)) := by
  rw [variables_addAll]
  exact foldl_addNamed_nil _ _

theorem outputs_addAll_empty (declared : List Declaration) :
    (addAll {} declared).outputs = firstNamed (·.name) (declared.filterMap (·.toOutput?)) := by
  rw [outputs_addAll]
  exact foldl_addNamed_nil _ _

end Declarations

end Groundplan
