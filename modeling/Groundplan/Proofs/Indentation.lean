import Groundplan.Proofs.BlockContents
import Groundplan.Proofs.Lines
import Groundplan.Proofs.Reader
import Mathlib.Logic.Function.Iterate

/-!
# Indentation of nested text

A value that starts one level further in has two more blanks behind each of its line breaks. The lines
of a nested block are those of the block on its own, with two more blanks in front of each that is not
empty.

Types and expressions are written as they are, so a line break in one would begin a line that no level
indents. Labels, keys and strings are quoted, and no line breaks are left in them.
-/

namespace Groundplan

open Text

/-- Some text with two blanks behind each line break. -/
def indentBreaks (s : String) : String :=
  String.ofList (s.toList.flatMap fun c => if c = '\n' then ['\n', ' ', ' '] else [c])

/-- A line with two blanks in front, unless it is empty. -/
def indentLine (line : String) : String := if line = "" then "" else "  " ++ line

theorem indentBreaks_append (s t : String) :
    indentBreaks (s ++ t) = indentBreaks s ++ indentBreaks t := by
  simp [indentBreaks]

theorem indentBreaks_break : indentBreaks "\n" = "\n  " := rfl

theorem indentBreaks_of_notMem {s : String} (h : '\n' ∉ s.toList) : indentBreaks s = s := by
  have hsame : s.toList.flatMap (fun c => if c = '\n' then ['\n', ' ', ' '] else [c]) = s.toList := by
    generalize s.toList = cs at h
    induction cs with
    | nil => rfl
    | cons c cs ih =>
      rw [List.mem_cons, not_or] at h
      rw [List.flatMap_cons, if_neg (Ne.symm h.1), ih h.2]
      rfl
  rw [indentBreaks, hsame, String.ofList_toList]

theorem indentBreaks_intercalate {separator : String} (h : '\n' ∉ separator.toList)
    (texts : List String) : indentBreaks (separator.intercalate texts) =
      separator.intercalate (texts.map indentBreaks) := by
  induction texts with
  | nil => rfl
  | cons text texts ih =>
    cases texts with
    | nil => simp
    | cons next texts =>
      rw [String.intercalate_cons_cons, indentBreaks_append, indentBreaks_append, ih,
        indentBreaks_of_notMem h]
      simp

theorem pieces_indented_intercalate {texts : List String} (hne : texts ≠ []) (h : Unbroken texts) :
    pieces ("  " ++ indentBreaks ("\n".intercalate texts)) = texts.map ("  " ++ ·) := by
  induction texts with
  | nil => exact absurd rfl hne
  | cons text texts ih =>
    obtain ⟨htext, hrest⟩ := unbroken_cons.mp h
    have hfirst : '\n' ∉ ("  " ++ text).toList := by simpa using htext
    cases texts with
    | nil =>
      rw [String.intercalate_singleton, indentBreaks_of_notMem htext, pieces_of_notMem hfirst]
      rfl
    | cons next texts =>
      have hindented : "  " ++ indentBreaks ("\n".intercalate (text :: next :: texts)) =
          "  " ++ text ++ "\n" ++ ("  " ++ indentBreaks ("\n".intercalate (next :: texts))) := by
        rw [String.intercalate_cons_cons, indentBreaks_append, indentBreaks_append,
          indentBreaks_of_notMem htext, indentBreaks_break, String.append_assoc, String.append_assoc,
          String.append_assoc]
        rfl
      rw [hindented, pieces_append_break, pieces_of_notMem hfirst, ih (List.cons_ne_nil _ _) hrest]
      rfl

theorem pieces_indented (s : String) :
    pieces ("  " ++ indentBreaks s) = (pieces s).map ("  " ++ ·) := by
  have hpieces := pieces_indented_intercalate (pieces_ne_nil s) (unbroken_pieces s)
  rwa [intercalate_pieces] at hpieces

theorem map_indentLine (ls : List String) :
    (ls.map ("  " ++ ·)).map indentLine = (ls.map ("  " ++ ·)).map ("  " ++ ·) := by
  refine List.map_congr_left fun l hl => ?_
  obtain ⟨line, -, rfl⟩ := List.mem_map.mp hl
  exact if_neg (by simp)

theorem indent_succ (depth : Nat) : indent (depth + 1) = "  " ++ indent depth := by
  rw [indent, Nat.mul_succ, Nat.add_comm, blanks, List.replicate_add, String.ofList_append]
  rfl

theorem newline_notMem_blanks (n : Nat) : '\n' ∉ (blanks n).toList := by simp [blanks]

theorem newline_notMem_quote (s : String) : '\n' ∉ (quote s).toList := by
  simp [toList_quote, newline_notMem_escapeChars]

theorem newline_notMem_renderKey (key : String) : '\n' ∉ (renderKey key).toList := by
  rw [renderKey]
  split
  · rename_i hbare
    exact (isWord_of_isBareWord hbare).notMem rfl
  · exact newline_notMem_quote key

/-- The part of a line in front of its value. -/
def lineStart (depth width : Nat) (key : String) : String :=
  indent depth ++ padKey width key ++ " = "

theorem renderLine_eq_lineStart (depth width : Nat) (key text : String) :
    renderLine depth width key text = lineStart depth width key ++ text ++ "\n" := rfl

theorem lineStart_succ (depth width : Nat) (key : String) :
    lineStart (depth + 1) width key = "  " ++ lineStart depth width key := by
  simp only [lineStart, indent_succ, String.append_assoc]

theorem indentBreaks_lineStart (depth width : Nat) (key : String) :
    indentBreaks (lineStart depth width key) = lineStart depth width key := by
  apply indentBreaks_of_notMem
  simp [lineStart, padKey, indent, newline_notMem_blanks, newline_notMem_renderKey]

theorem renderLine_succ (depth width : Nat) (key text : String) :
    renderLine (depth + 1) width key (indentBreaks text) ++ "  " =
      "  " ++ indentBreaks (renderLine depth width key text) := by
  rw [renderLine_eq_lineStart, renderLine_eq_lineStart, lineStart_succ, indentBreaks_append,
    indentBreaks_append, indentBreaks_lineStart, indentBreaks_break]
  simp only [String.append_assoc]
  rfl

theorem lines_renderLine_succ (depth width : Nat) (key text : String) :
    lines (renderLine (depth + 1) width key (indentBreaks text)) =
      (lines (renderLine depth width key text)).map ("  " ++ ·) := by
  rw [renderLine_eq_lineStart, renderLine_eq_lineStart, lineStart_succ, lines_append_break,
    lines_append_break, ← pieces_indented, indentBreaks_append, indentBreaks_lineStart,
    String.append_assoc]

namespace Value

theorem render_cons (depth : Nat) (e : String × Value) (entries : List (String × Value)) :
    (object (e :: entries)).render depth = "\x7b\n" ++
      (renderEntries (depth + 1) (columnWidth ((e :: entries).map (·.1))) (e :: entries) ++
        (indent depth ++ "\x7d")) := by
  rw [render]
  · simp only [String.append_assoc]
  · simp

mutual

theorem render_succ (depth : Nat) (v : Value) (h : Unbroken v.expressions) :
    v.render (depth + 1) = indentBreaks (v.render depth) := by
  cases v with
  | string s => exact (indentBreaks_of_notMem (newline_notMem_quote s)).symm
  | expression e => exact (indentBreaks_of_notMem (h e List.mem_cons_self)).symm
  | number n => exact (indentBreaks_of_notMem (n.isNumeral_text.isWord.notMem rfl)).symm
  | bool b =>
    rw [render, render]
    exact (indentBreaks_of_notMem ((isWord_bool b).notMem rfl)).symm
  | list items =>
    rw [render, render, renderItems_succ depth items h, indentBreaks_append, indentBreaks_append,
      indentBreaks_intercalate (by decide)]
    rfl
  | object entries =>
    cases entries with
    | nil =>
      rw [render, render]
      rfl
    | cons e entries =>
      rw [render_cons, render_cons]
      generalize columnWidth ((e :: entries).map (·.1)) = width
      have hclosing : '\n' ∉ (indent depth ++ "\x7d").toList := by
        simp [indent, newline_notMem_blanks]
      have hentries := renderEntries_succ (depth + 1) width (e :: entries) h
      have hinside : renderEntries (depth + 1 + 1) width (e :: entries) ++
            (indent (depth + 1) ++ "\x7d") =
          "  " ++ (indentBreaks (renderEntries (depth + 1) width (e :: entries)) ++
            (indent depth ++ "\x7d")) := by
        rw [indent_succ, String.append_assoc, ← String.append_assoc, hentries, String.append_assoc]
      rw [hinside, indentBreaks_append, indentBreaks_append, indentBreaks_of_notMem hclosing,
        ← String.append_assoc]
      rfl

theorem renderItems_succ (depth : Nat) (items : List Value) (h : Unbroken (itemExpressions items)) :
    renderItems (depth + 1) items = (renderItems depth items).map indentBreaks := by
  cases items with
  | nil => rfl
  | cons item items =>
    obtain ⟨hitem, hitems⟩ := unbroken_append.mp h
    rw [renderItems, renderItems, render_succ depth item hitem, renderItems_succ depth items hitems]
    rfl

theorem renderEntries_succ (depth width : Nat) (entries : List (String × Value))
    (h : Unbroken (entryExpressions entries)) : renderEntries (depth + 1) width entries ++ "  " =
      "  " ++ indentBreaks (renderEntries depth width entries) := by
  cases entries with
  | nil => rfl
  | cons e entries =>
    obtain ⟨key, value⟩ := e
    obtain ⟨hvalue, hentries⟩ := unbroken_append.mp h
    rw [renderEntries, renderEntries, render_succ depth value hvalue, String.append_assoc,
      renderEntries_succ depth width entries hentries, ← String.append_assoc, renderLine_succ,
      indentBreaks_append, String.append_assoc]

end

end Value

theorem lines_setting_succ (depth width : Nat) (key : String) {v : Value}
    (h : Unbroken v.expressions) :
    lines (renderLine (depth + 2) width key (v.render (depth + 2))) =
      (lines (renderLine (depth + 1) width key (v.render (depth + 1)))).map indentLine := by
  rw [v.render_succ (depth + 1) h, lines_renderLine_succ, v.render_succ depth h,
    lines_renderLine_succ, map_indentLine]

/-- The heading of a block up to its opening brace. -/
def headingLine (type : String) (labels : List String) : String :=
  type ++ String.join (labels.map fun label => " " ++ quote label) ++ " \x7b"

theorem newline_notMem_headingLine {type : String} (h : '\n' ∉ type.toList) (labels : List String) :
    '\n' ∉ (headingLine type labels).toList := by
  simp [headingLine, String.toList_join, h, newline_notMem_quote]

theorem Block.renderAt_nil (depth : Nat) (type : String) (labels : List String) :
    Block.renderAt depth ⟨type, labels, []⟩ =
      indent depth ++ (headingLine type labels ++ "\x7d") ++ "\n" := by
  simp only [Block.renderAt, headingLine, String.append_assoc]
  rfl

theorem Block.renderAt_of_ne_nil (depth : Nat) (type : String) (labels : List String)
    {body : List BodyItem} (h : body ≠ []) : Block.renderAt depth ⟨type, labels, body⟩ =
      indent depth ++ headingLine type labels ++ "\n" ++
        (renderItems (depth + 1) none body ++ (indent depth ++ "\x7d" ++ "\n")) := by
  cases body with
  | nil => exact absurd rfl h
  | cons item rest =>
    simp only [Block.renderAt, headingLine, String.append_assoc]
    rfl

theorem isWhole_renderLine (depth width : Nat) (key text : String) :
    IsWhole (renderLine depth width key text) := isWhole_line _

theorem isWhole_renderAt (depth : Nat) (b : Block) : IsWhole (b.renderAt depth) := by
  obtain ⟨type, labels, body⟩ := b
  by_cases hbody : body = []
  · rw [hbody, Block.renderAt_nil]
    exact isWhole_line _
  · rw [Block.renderAt_of_ne_nil depth type labels hbody, ← String.append_assoc,
      ← String.append_assoc]
    exact isWhole_line _

theorem isWhole_break_ite (p : Prop) [Decidable p] : IsWhole (if p then "\n" else "") := by
  split
  · exact isWhole_line ""
  · exact .inl rfl

theorem isWhole_renderItems (depth : Nat) (column : Option Nat) (body : List BodyItem) :
    IsWhole (renderItems depth column body) := by
  induction body generalizing column with
  | nil => exact .inl rfl
  | cons item rest ih =>
    cases item with
    | setting key value => exact (isWhole_renderLine ..).append (ih _)
    | block content =>
      exact ((isWhole_break_ite _).append (isWhole_renderAt depth content)).append (ih _)

mutual

/-- What a block at any depth writes as it is: its types and the expressions in its values. -/
def Block.rawTexts : Block → List String
  | ⟨type, _, body⟩ => type :: bodyRawTexts body

def bodyRawTexts : List BodyItem → List String
  | [] => []
  | .setting _ value :: rest => value.expressions ++ bodyRawTexts rest
  | .block content :: rest => content.rawTexts ++ bodyRawTexts rest

end

theorem lines_indented_line (depth : Nat) {text : String} (hne : text ≠ "")
    (h : '\n' ∉ text.toList) : lines (indent (depth + 1) ++ text ++ "\n") =
      (lines (indent depth ++ text ++ "\n")).map indentLine := by
  have hindented : ∀ n, '\n' ∉ (indent n ++ text).toList := by
    intro n
    simp [indent, newline_notMem_blanks, h]
  have hsome : indent depth ++ text ≠ "" := by simp [hne]
  rw [lines_line (hindented _), lines_line (hindented _), List.map_singleton, indentLine,
    if_neg hsome, indent_succ, String.append_assoc]

theorem map_indentLine_break_ite (p : Prop) [Decidable p] :
    (lines (if p then "\n" else "")).map indentLine = lines (if p then "\n" else "") := by
  split <;> decide

mutual

theorem lines_renderAt_succ (depth : Nat) (b : Block) (h : Unbroken b.rawTexts) :
    lines (b.renderAt (depth + 1)) = (lines (b.renderAt depth)).map indentLine := by
  obtain ⟨type, labels, body⟩ := b
  obtain ⟨htype, hbody⟩ := unbroken_cons.mp h
  have hheading := newline_notMem_headingLine htype labels
  cases body with
  | nil =>
    rw [Block.renderAt_nil, Block.renderAt_nil, lines_indented_line depth (by simp) (by simpa)]
  | cons item rest =>
    rw [Block.renderAt_of_ne_nil _ _ _ (List.cons_ne_nil _ _),
      Block.renderAt_of_ne_nil _ _ _ (List.cons_ne_nil _ _), lines_append (isWhole_line _),
      lines_append (isWhole_renderItems ..), lines_append (isWhole_line _),
      lines_append (isWhole_renderItems ..), List.map_append, List.map_append,
      lines_indented_line depth (by simp [headingLine]) hheading,
      lines_indented_line depth (by decide) (by decide),
      lines_renderItems_succ depth none (item :: rest) hbody]

theorem lines_renderItems_succ (depth : Nat) (column : Option Nat) (body : List BodyItem)
    (h : Unbroken (bodyRawTexts body)) : lines (renderItems (depth + 2) column body) =
      (lines (renderItems (depth + 1) column body)).map indentLine := by
  cases body with
  | nil => rfl
  | cons item rest =>
    cases item with
    | setting key value =>
      obtain ⟨hvalue, hrest⟩ := unbroken_append.mp h
      rw [renderItems, renderItems, lines_append (isWhole_renderLine ..),
        lines_append (isWhole_renderLine ..), List.map_append, lines_setting_succ depth _ key hvalue,
        lines_renderItems_succ depth _ rest hrest]
    | block content =>
      obtain ⟨hcontent, hrest⟩ := unbroken_append.mp h
      have hgap := isWhole_break_ite (column.isSome = true)
      rw [renderItems, renderItems, lines_append (hgap.append (isWhole_renderAt ..)),
        lines_append (hgap.append (isWhole_renderAt ..)), lines_append hgap, lines_append hgap,
        List.map_append, List.map_append, map_indentLine_break_ite,
        lines_renderAt_succ (depth + 1) content hcontent,
        lines_renderItems_succ depth none rest hrest]

end

theorem lines_renderAt (depth : Nat) {b : Block} (h : Unbroken b.rawTexts) :
    lines (b.renderAt depth) = (lines b.render).map (indentLine^[depth]) := by
  induction depth with
  | zero => exact (List.map_id _).symm
  | succ depth ih =>
    rw [lines_renderAt_succ depth b h, ih, List.map_map, Function.iterate_succ']

theorem runWidth_nested (body : List BodyItem) (child : Block) (after : List BodyItem) :
    runWidth (body ++ .block child :: after) = runWidth body := by
  rw [runWidth, runWidth]
  apply congrArg columnWidth
  induction body with
  | nil => rfl
  | cons item rest ih =>
    cases item with
    | setting key value => simpa [BodyItem.setting?] using ih
    | block content => rfl

theorem renderItems_nested (depth : Nat) (column : Option Nat) (before : List BodyItem)
    (child : Block) (after : List BodyItem) :
    renderItems depth column (before ++ .block child :: after) = renderItems depth column before ++
      (if before.getLast?.elim column.isSome (·.setting?.isSome) then "\n" else "") ++
        (child.renderAt depth ++ renderItems depth none after) := by
  induction before generalizing column with
  | nil =>
    rw [List.nil_append, renderItems, renderItems, String.empty_append, String.append_assoc]
    rfl
  | cons item rest ih =>
    have hlast : (item :: rest).getLast?.elim column.isSome (·.setting?.isSome) =
        rest.getLast?.elim item.setting?.isSome (·.setting?.isSome) := by
      rw [List.getLast?_cons]
      cases rest.getLast? <;> rfl
    rw [hlast]
    cases item with
    | setting key value =>
      have hwidth := runWidth_nested (.setting key value :: rest) child after
      rw [List.cons_append] at hwidth
      rw [List.cons_append, renderItems, renderItems, ih, hwidth]
      simp only [String.append_assoc]
      rfl
    | block content =>
      rw [List.cons_append, renderItems, renderItems, ih]
      simp only [String.append_assoc]
      rfl

/-- What a block has in front of a nested one. An empty line parts it from attributes. -/
def textBefore (depth : Nat) (type : String) (labels : List String) (before : List BodyItem) :
    String :=
  indent depth ++ headingLine type labels ++ "\n" ++ renderItems (depth + 1) none before ++
    (if before.getLast?.elim false (·.setting?.isSome) then "\n" else "")

/-- What a block has behind a nested one. -/
def textAfter (depth : Nat) (after : List BodyItem) : String :=
  renderItems (depth + 1) none after ++ (indent depth ++ "\x7d" ++ "\n")

theorem renderAt_nested (depth : Nat) (type : String) (labels : List String)
    (before : List BodyItem) (child : Block) (after : List BodyItem) :
    Block.renderAt depth ⟨type, labels, before ++ .block child :: after⟩ =
      textBefore depth type labels before ++ child.renderAt (depth + 1) ++ textAfter depth after := by
  have hbody : before ++ .block child :: after ≠ [] := by simp
  rw [Block.renderAt_of_ne_nil _ _ _ hbody, renderItems_nested]
  simp only [textBefore, textAfter, String.append_assoc]
  rfl

theorem isWhole_textBefore (depth : Nat) (type : String) (labels : List String)
    (before : List BodyItem) : IsWhole (textBefore depth type labels before) :=
  ((isWhole_line _).append (isWhole_renderItems ..)).append (isWhole_break_ite _)

theorem lines_nested (depth : Nat) (type : String) (labels : List String)
    (before : List BodyItem) {child : Block} (after : List BodyItem) (h : Unbroken child.rawTexts) :
    lines (Block.renderAt depth ⟨type, labels, before ++ .block child :: after⟩) =
      lines (textBefore depth type labels before) ++
        (lines (child.renderAt depth)).map indentLine ++ lines (textAfter depth after) := by
  have hbefore := isWhole_textBefore depth type labels before
  rw [renderAt_nested, lines_append (hbefore.append (isWhole_renderAt ..)), lines_append hbefore,
    lines_renderAt_succ depth child h]

/-- A value that starts one level further in has two more blanks behind each line break. What a block
at any level has in front of a nested one and behind it does not depend on the nested one, which adds
its own lines with two more blanks in front of each that is not empty. -/
theorem indentation_compositional :
    (∀ v : Value, Unbroken v.expressions → ∀ depth,
      v.render (depth + 1) = indentBreaks (v.render depth)) ∧
    ∀ child : Block, Unbroken child.rawTexts →
      (∀ depth, lines (child.renderAt depth) = (lines child.render).map (indentLine^[depth])) ∧
      ∀ (type : String) (labels : List String) (before after : List BodyItem),
        let parent : Block := ⟨type, labels, before ++ .block child :: after⟩
        (∀ depth, parent.renderAt depth =
          textBefore depth type labels before ++ child.renderAt (depth + 1) ++
            textAfter depth after) ∧
        lines parent.render = lines (textBefore 0 type labels before) ++
          (lines child.render).map indentLine ++ lines (textAfter 0 after) ∧
        ofLines (lines parent.render) = parent.render := by
  refine ⟨fun v hv depth => v.render_succ depth hv, fun child hchild => ⟨fun depth =>
    lines_renderAt depth hchild, ?_⟩⟩
  intro type labels before after parent
  exact ⟨fun depth => renderAt_nested depth type labels before child after,
    lines_nested 0 type labels before after hchild, ofLines_lines (isWhole_renderAt 0 parent)⟩

/-- A block with an object of two lines, an empty line and a block in it stands behind an attribute. -/
theorem indentation_compositional_identity :
    let tags : Value :=
      .object [("a b", .string "x\ny"), ("é", .list [.object [], .expression "local.e"])]
    let child : Block := ⟨"identity", ["\n"], [.setting "tags" tags, .block ⟨"inner", [], []⟩]⟩
    let name : BodyItem := .setting "name" (.string "n")
    tags.render 1 = indentBreaks (tags.render 0) ∧
      lines (Block.render ⟨"resource", ["t"], [name, .block child, name]⟩) =
        ["resource \"t\" \x7b", "  name = \"n\"", "", "  identity \"\\n\" \x7b", "    tags = \x7b",
          "      \"a b\" = \"x\\ny\"", "      \"é\"   = [\x7b\x7d, local.e]", "    \x7d", "",
          "    inner \x7b\x7d", "  \x7d", "  name = \"n\"", "\x7d"] := by
  intro tags child name
  obtain ⟨hvalues, hblocks⟩ := indentation_compositional
  obtain ⟨-, hnested⟩ := hblocks child (by decide +kernel)
  obtain ⟨-, hlines, -⟩ := hnested "resource" ["t"] [name] [name]
  refine ⟨hvalues tags (by decide +kernel) 0, hlines.trans ?_⟩
  decide +kernel

end Groundplan
