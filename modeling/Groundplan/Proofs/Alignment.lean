import Groundplan.Config.Render
import Mathlib.Data.List.Chain

/-!
# Alignment of attributes

The lines of attributes that stand together, and of the entries of one object, have their equals
signs in one column. That column is the least possible one if a key with the greatest size is written
in ASCII; otherwise every key of the group has more than one blank behind it.
-/

namespace Groundplan

/-- A line that assigns a value, in its parts. -/
structure Line where
  depth : Nat
  key : String
  /-- The number of blanks between the key and the equals sign. -/
  gap : Nat
  value : String

namespace Line

/-- What stands in front of the equals sign. -/
def lead (l : Line) : String := indent l.depth ++ renderKey l.key ++ blanks l.gap

def text (l : Line) : String := l.lead ++ "= " ++ l.value ++ "\n"

/-- The column of the equals sign, in characters. -/
def column (l : Line) : Nat := l.lead.length

theorem getElem?_column (l : Line) : l.text.toList[l.column]? = some '=' := by
  have htext : l.text.toList = l.lead.toList ++ '=' :: ' ' :: (l.value.toList ++ ['\n']) := by
    simp [text]
  rw [htext, column, ← String.length_toList, List.getElem?_append_right (Nat.le_refl _), Nat.sub_self]
  rfl

theorem column_eq (l : Line) : l.column = 2 * l.depth + (renderKey l.key).length + l.gap := by
  simp [column, lead, indent, blanks]

end Line

theorem length_le_utf8ByteSize (s : String) : s.length ≤ s.utf8ByteSize := by
  induction s using String.push_induction with
  | empty => simp
  | push s c ih =>
    have hc : 0 < c.utf8Size := c.utf8Size_pos
    rw [String.length_push, String.utf8ByteSize_push]
    omega

theorem foldl_max_le_iff {sizes : List Nat} {start n : Nat} :
    sizes.foldl max start ≤ n ↔ start ≤ n ∧ ∀ size ∈ sizes, size ≤ n := by
  induction sizes generalizing start with
  | nil => simp
  | cons size sizes ih =>
    rw [List.foldl_cons, ih, Nat.max_le, List.forall_mem_cons, and_assoc]

theorem columnWidth_le_iff {keys : List String} {n : Nat} :
    columnWidth keys ≤ n ↔ ∀ key ∈ keys, keyWidth key ≤ n := by
  rw [columnWidth, foldl_max_le_iff]
  simp

theorem length_renderKey_le {key : String} {keys : List String} (h : key ∈ keys) :
    (renderKey key).length ≤ columnWidth keys :=
  Nat.le_trans (length_le_utf8ByteSize _) (columnWidth_le_iff.mp (Nat.le_refl _) key h)

/-- The lines of entries that stand together. -/
def groupLines (depth : Nat) (entries : List (String × Value)) : List Line :=
  entries.map fun e =>
    { depth, key := e.1, gap := columnWidth (entries.map (·.1)) + 1 - (renderKey e.1).length
      value := e.2.render depth }

def groupText (depth : Nat) (entries : List (String × Value)) : String :=
  String.join ((groupLines depth entries).map (·.text))

/-- Whether lines hold some entries, one each and in their order, behind equals signs that stand in
one column and have a blank in front of them. -/
structure Aligned (depth : Nat) (entries : List (String × Value)) (lines : List Line) (column : Nat) :
    Prop where
  depth_eq : ∀ l ∈ lines, l.depth = depth
  entries_eq : lines.map (fun l => (l.key, l.value)) =
    entries.map fun e => (e.1, e.2.render depth)
  column_eq : ∀ l ∈ lines, l.column = column
  gap_pos : ∀ l ∈ lines, 0 < l.gap

/-- Whether some key has just one blank behind it, so that no column further left would do. -/
def Tight (lines : List Line) : Prop := ∃ l ∈ lines, l.gap = 1

theorem length_renderKey_le_of_mem {e : String × Value} {entries : List (String × Value)}
    (h : e ∈ entries) : (renderKey e.1).length ≤ columnWidth (entries.map (·.1)) :=
  length_renderKey_le (List.mem_map_of_mem h)

theorem aligned_groupLines (depth : Nat) (entries : List (String × Value)) :
    Aligned depth entries (groupLines depth entries)
      (2 * depth + columnWidth (entries.map (·.1)) + 1) where
  depth_eq := by
    intro l hl
    obtain ⟨e, -, rfl⟩ := List.mem_map.mp hl
    rfl
  entries_eq := by simp [groupLines, Function.comp_def]
  column_eq := by
    intro l hl
    obtain ⟨e, he, rfl⟩ := List.mem_map.mp hl
    have hkey := length_renderKey_le_of_mem he
    rw [Line.column_eq]
    dsimp only
    omega
  gap_pos := by
    intro l hl
    obtain ⟨e, he, rfl⟩ := List.mem_map.mp hl
    have hkey := length_renderKey_le_of_mem he
    dsimp only
    omega

theorem Aligned.shift {depth column : Nat} {entries : List (String × Value)} {lines : List Line}
    (h : Aligned depth entries lines column) (htight : ¬Tight lines) :
    Aligned depth entries (lines.map fun l => { l with gap := l.gap - 1 }) (column - 1) := by
  have hgap : ∀ l ∈ lines, 1 < l.gap := by
    intro l hl
    have hpos := h.gap_pos l hl
    have hne : l.gap ≠ 1 := fun hone => htight ⟨l, hl, hone⟩
    omega
  refine ⟨?_, ?_, ?_, ?_⟩
  · intro l hl
    obtain ⟨line, hline, rfl⟩ := List.mem_map.mp hl
    exact h.depth_eq line hline
  · rw [← h.entries_eq, List.map_map]
    rfl
  · intro l hl
    obtain ⟨line, hline, rfl⟩ := List.mem_map.mp hl
    have hcolumn := h.column_eq line hline
    have hone := hgap line hline
    rw [Line.column_eq] at hcolumn ⊢
    dsimp only
    omega
  · intro l hl
    obtain ⟨line, hline, rfl⟩ := List.mem_map.mp hl
    have hone := hgap line hline
    dsimp only
    omega

theorem Aligned.column_le {depth column other : Nat} {entries : List (String × Value)}
    {lines others : List Line} (h : Aligned depth entries lines column)
    (hother : Aligned depth entries others other) (htight : Tight lines) : column ≤ other := by
  obtain ⟨l, hl, hgap⟩ := htight
  have hmem : (l.key, l.value) ∈ others.map fun l => (l.key, l.value) := by
    rw [hother.entries_eq, ← h.entries_eq]
    exact List.mem_map_of_mem hl
  obtain ⟨line, hline, heq⟩ := List.mem_map.mp hmem
  have hkey : line.key = l.key := (Prod.mk.inj heq).1
  have hcolumn := h.column_eq l hl
  have hcolumnOther := hother.column_eq line hline
  have hpos := hother.gap_pos line hline
  rw [Line.column_eq, h.depth_eq l hl] at hcolumn
  rw [Line.column_eq, hother.depth_eq line hline, hkey] at hcolumnOther
  omega

/-- Whether no other way of aligning some entries has its equals signs further to the left. -/
def IsLeastColumn (depth : Nat) (entries : List (String × Value)) (column : Nat) : Prop :=
  ∀ lines other, Aligned depth entries lines other → column ≤ other

theorem Aligned.isLeastColumn_iff {depth column : Nat} {entries : List (String × Value)}
    {lines : List Line} (h : Aligned depth entries lines column) (hpos : 0 < column) :
    IsLeastColumn depth entries column ↔ Tight lines := by
  constructor
  · intro hleast
    refine Classical.byContradiction fun htight => ?_
    have hle := hleast _ _ (h.shift htight)
    omega
  · intro htight others other hother
    exact h.column_le hother htight

theorem tight_groupLines_iff {depth : Nat} {entries : List (String × Value)} :
    Tight (groupLines depth entries) ↔
      ∃ e ∈ entries, ∀ other ∈ entries, keyWidth other.1 ≤ (renderKey e.1).length := by
  have hgap : ∀ e ∈ entries, (columnWidth (entries.map (·.1)) + 1 - (renderKey e.1).length = 1 ↔
      ∀ other ∈ entries, keyWidth other.1 ≤ (renderKey e.1).length) := by
    intro e he
    have hkey := length_renderKey_le_of_mem he
    have hwidth : columnWidth (entries.map (·.1)) ≤ (renderKey e.1).length ↔
        ∀ other ∈ entries, keyWidth other.1 ≤ (renderKey e.1).length := by
      rw [columnWidth_le_iff, List.forall_mem_map]
    rw [← hwidth]
    omega
  constructor
  · rintro ⟨l, hl, h⟩
    obtain ⟨e, he, rfl⟩ := List.mem_map.mp hl
    exact ⟨e, he, (hgap e he).mp h⟩
  · rintro ⟨e, he, h⟩
    exact ⟨_, List.mem_map_of_mem he, (hgap e he).mpr h⟩

inductive Stretch where
  | run (entries : List (String × Value))
  | block (content : Block)

namespace Stretch

def isRun : Stretch → Bool
  | run _ => true
  | block _ => false

/-- The items of a body that make up a stretch. -/
def items : Stretch → List BodyItem
  | run entries => entries.map fun e => .setting e.1 e.2
  | block content => [.block content]

end Stretch

/-- The attributes that stand together in a body, and the blocks between them. -/
def stretches : List BodyItem → List Stretch
  | [] => []
  | .setting key value :: rest =>
    match stretches rest with
    | .run entries :: more => .run ((key, value) :: entries) :: more
    | more => .run [(key, value)] :: more
  | .block content :: rest => .block content :: stretches rest

/-- Whether a body has been parted into runs of attributes and blocks, with each run as long as it
can be. -/
structure IsParting (body : List BodyItem) (parts : List Stretch) : Prop where
  items_eq : parts.flatMap Stretch.items = body
  run_ne_nil : ∀ entries, .run entries ∈ parts → entries ≠ []
  maximal : parts.IsChain fun a b => ¬(a.isRun ∧ b.isRun)

theorem IsParting.cons {body : List BodyItem} {parts : List Stretch} (h : IsParting body parts)
    (part : Stretch) (hne : ∀ entries, part = .run entries → entries ≠ [])
    (hnext : ∀ next ∈ parts.head?, ¬(part.isRun ∧ next.isRun)) :
    IsParting (part.items ++ body) (part :: parts) where
  items_eq := by rw [List.flatMap_cons, h.items_eq]
  run_ne_nil := by
    intro entries hentries
    rcases List.mem_cons.mp hentries with hpart | hparts
    · exact hne entries hpart.symm
    · exact h.run_ne_nil entries hparts
  maximal := List.isChain_cons.mpr ⟨hnext, h.maximal⟩

theorem IsParting.tail {body : List BodyItem} {part : Stretch} {parts : List Stretch}
    (h : IsParting body (part :: parts)) : IsParting (parts.flatMap Stretch.items) parts where
  items_eq := rfl
  run_ne_nil := fun entries hentries => h.run_ne_nil entries (List.mem_cons_of_mem _ hentries)
  maximal := h.maximal.tail

theorem isParting_stretches (body : List BodyItem) : IsParting body (stretches body) := by
  fun_induction stretches body with
  | case1 => exact ⟨rfl, by simp, .nil⟩
  | case2 key value rest entries more heq ih =>
    rw [heq] at ih
    rw [← ih.items_eq]
    refine ih.tail.cons (.run ((key, value) :: entries)) ?_ (List.isChain_cons.mp ih.maximal).1
    rintro _ ⟨⟩
    exact List.cons_ne_nil _ _
  | case3 key value rest hnot ih =>
    refine ih.cons (.run [(key, value)]) ?_ ?_
    · rintro _ ⟨⟩
      exact List.cons_ne_nil _ _
    · intro next hnext
      obtain ⟨more, hparts⟩ := List.head?_eq_some_iff.mp hnext
      cases next with
      | run entries => exact absurd hparts (hnot entries more)
      | block content => simp [Stretch.isRun]
  | case4 content rest ih =>
    exact ih.cons (.block content) nofun (by simp [Stretch.isRun])

/-- The text of a parted body: an empty line stands between a run and a block behind it. -/
def layout (depth : Nat) : List Stretch → String
  | [] => ""
  | .run entries :: .block content :: rest =>
    groupText depth entries ++ "\n" ++ layout depth (.block content :: rest)
  | .run entries :: rest => groupText depth entries ++ layout depth rest
  | .block content :: rest => content.renderAt depth ++ layout depth rest

theorem renderLine_eq {depth width : Nat} {key : String} (value : String)
    (h : (renderKey key).length ≤ width) : renderLine depth width key value =
      Line.text { depth, key, gap := width + 1 - (renderKey key).length, value } := by
  have hgap : blanks (width + 1 - (renderKey key).length) =
      blanks (width - (renderKey key).length) ++ " " := by
    rw [Nat.sub_add_comm h, blanks, List.replicate_succ', String.ofList_append]
    rfl
  simp [renderLine, Line.text, Line.lead, padKey, hgap, String.append_assoc]

theorem groupText_eq (depth : Nat) (entries : List (String × Value)) : groupText depth entries =
    String.join (entries.map fun e =>
      renderLine depth (columnWidth (entries.map (·.1))) e.1 (e.2.render depth)) := by
  rw [groupText, groupLines, List.map_map]
  apply congrArg String.join
  apply List.map_congr_left
  intro e he
  exact (renderLine_eq _ (length_renderKey_le_of_mem he)).symm

theorem Value.renderEntries_eq (depth width : Nat) (entries : List (String × Value)) :
    renderEntries depth width entries =
      String.join (entries.map fun e => renderLine depth width e.1 (e.2.render depth)) := by
  induction entries with
  | nil => rfl
  | cons e entries ih => simp [renderEntries, ih]

theorem Value.render_object (depth : Nat) {entries : List (String × Value)} (h : entries ≠ []) :
    (object entries).render depth =
      "\x7b\n" ++ groupText (depth + 1) entries ++ indent depth ++ "\x7d" := by
  cases entries with
  | nil => exact absurd rfl h
  | cons e entries =>
    rw [render, renderEntries_eq, groupText_eq]
    exact h

theorem renderItems_run (depth width : Nat) (entries : List (String × Value))
    (rest : List BodyItem) :
    renderItems depth (some width) (Stretch.items (.run entries) ++ rest) =
      String.join (entries.map fun e => renderLine depth width e.1 (e.2.render depth)) ++
        renderItems depth (some width) rest := by
  induction entries with
  | nil => simp [Stretch.items]
  | cons e entries ih =>
    simp only [Stretch.items, List.map_cons, List.cons_append] at ih ⊢
    rw [renderItems, Option.getD_some, ih]
    simp [String.append_assoc]

theorem runWidth_run {entries : List (String × Value)} {rest : List BodyItem}
    (h : ∀ key value more, rest ≠ .setting key value :: more) :
    runWidth (Stretch.items (.run entries) ++ rest) = columnWidth (entries.map (·.1)) := by
  rw [runWidth]
  apply congrArg columnWidth
  induction entries with
  | nil =>
    match rest with
    | [] => rfl
    | .setting key value :: more => exact absurd rfl (h key value more)
    | .block content :: more => rfl
  | cons e entries ih => simpa [Stretch.items, BodyItem.setting?] using ih

theorem renderItems_none_run {depth : Nat} {entries : List (String × Value)} {rest : List BodyItem}
    (hentries : entries ≠ []) (hrest : ∀ key value more, rest ≠ .setting key value :: more) :
    renderItems depth none (Stretch.items (.run entries) ++ rest) =
      groupText depth entries ++
        renderItems depth (some (columnWidth (entries.map (·.1)))) rest := by
  have hsome : renderItems depth none (Stretch.items (.run entries) ++ rest) =
      renderItems depth (some (runWidth (Stretch.items (.run entries) ++ rest)))
        (Stretch.items (.run entries) ++ rest) := by
    cases entries with
    | nil => exact absurd rfl hentries
    | cons e entries => simp [Stretch.items, renderItems]
  rw [hsome, runWidth_run hrest, renderItems_run, groupText_eq]

theorem renderItems_of_isParting {depth : Nat} {body : List BodyItem} {parts : List Stretch}
    (h : IsParting body parts) : renderItems depth none body = layout depth parts := by
  rw [← h.items_eq]
  fun_induction layout depth parts generalizing body with
  | case1 => rfl
  | case2 entries content rest ih =>
    have hentries := h.run_ne_nil entries List.mem_cons_self
    rw [List.flatMap_cons, renderItems_none_run hentries (by simp [Stretch.items]), ← ih h.tail]
    simp [Stretch.items, renderItems, String.append_assoc]
  | case3 entries rest hblock ih =>
    have hentries := h.run_ne_nil entries List.mem_cons_self
    match rest with
    | [] =>
      rw [List.flatMap_cons, renderItems_none_run hentries (by simp)]
      rfl
    | .block content :: more => exact absurd rfl (hblock content more)
    | .run others :: more =>
      exact absurd ⟨rfl, rfl⟩ (List.isChain_cons_cons.mp h.maximal).1
  | case4 content rest ih =>
    rw [← ih h.tail]
    simp [Stretch.items, renderItems]

/-- A body is written run by run and block by block, and an object entry by entry, with all the equals
signs of a group in one column. The column is the least one, and the longest key has one blank behind
it, just if some key has as many characters as the largest key has bytes. -/
theorem attributes_share_column (depth : Nat) (body : List BodyItem)
    (entries : List (String × Value)) :
    (IsParting body (stretches body) ∧
      renderItems depth none body = layout depth (stretches body)) ∧
    (entries ≠ [] → (Value.object entries).render depth =
      "\x7b\n" ++ groupText (depth + 1) entries ++ indent depth ++ "\x7d") ∧
    ∃ column, Aligned depth entries (groupLines depth entries) column ∧
      (∀ l ∈ groupLines depth entries, l.text.toList[column]? = some '=') ∧
      (IsLeastColumn depth entries column ↔ Tight (groupLines depth entries)) ∧
      (Tight (groupLines depth entries) ↔ ∃ e ∈ entries, ∀ other ∈ entries,
        (renderKey other.1).utf8ByteSize ≤ (renderKey e.1).length) := by
  have haligned := aligned_groupLines depth entries
  refine ⟨⟨isParting_stretches body, renderItems_of_isParting (isParting_stretches body)⟩,
    Value.render_object depth, _, haligned, fun l hl => ?_,
    haligned.isLeastColumn_iff (Nat.succ_pos _), tight_groupLines_iff⟩
  rw [← haligned.column_eq l hl]
  exact l.getElem?_column

/-- An accented letter takes two bytes, so a second blank stands behind the only key. -/
theorem wide_column_of_accent :
    ((Block.ofType "locals" []).set "é" (.bool true)).render =
        "locals \x7b\n  \"é\"  = true\n\x7d\n" ∧
      ¬Tight (groupLines 1 [("é", .bool true)]) := by
  refine ⟨by decide +kernel, ?_⟩
  rw [tight_groupLines_iff]
  decide +kernel

end Groundplan
