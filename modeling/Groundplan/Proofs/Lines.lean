import Mathlib.Data.List.Basic
import Mathlib.Tactic.SplitIfs

/-!
# Lines of a text

The lines of a text that consists of whole lines, each closed by a line break. Such texts may be taken
apart line by line and put together again.
-/

namespace Groundplan.Text

/-- What stands between the line breaks of some text, in front of the first and behind the last
included. -/
def pieces (s : String) : List String := (s.toList.splitOn '\n').map String.ofList

/-- The lines of some text, each of them closed by a line break. -/
def lines (s : String) : List String := (pieces s).dropLast

/-- Whether some text consists of whole lines. -/
def IsWhole (s : String) : Prop := s = "" ∨ ∃ t, s = t ++ "\n"

/-- Whether no line breaks stand in some texts. -/
def Unbroken (texts : List String) : Prop := ∀ text ∈ texts, '\n' ∉ text.toList

instance (texts : List String) : Decidable (Unbroken texts) :=
  inferInstanceAs (Decidable (∀ text ∈ texts, '\n' ∉ text.toList))

theorem unbroken_cons {text : String} {texts : List String} :
    Unbroken (text :: texts) ↔ '\n' ∉ text.toList ∧ Unbroken texts := List.forall_mem_cons

theorem unbroken_append {texts others : List String} :
    Unbroken (texts ++ others) ↔ Unbroken texts ∧ Unbroken others := List.forall_mem_append

theorem pieces_ne_nil (s : String) : pieces s ≠ [] := by simp [pieces]

theorem newline_notMem_of_mem_splitOn (cs : List Char) :
    ∀ piece ∈ cs.splitOn '\n', '\n' ∉ piece := by
  induction cs with
  | nil => simp
  | cons c cs ih =>
    rw [List.splitOn_cons_eq_if_modifyHead]
    split
    · simpa using ih
    · rename_i hc
      obtain ⟨piece, rest, hsplit⟩ := List.exists_cons_of_ne_nil (List.splitOn_ne_nil '\n' cs)
      have hne : '\n' ≠ c := fun heq => hc (beq_iff_eq.mpr heq.symm)
      rw [hsplit, List.forall_mem_cons] at ih
      rw [hsplit, List.modifyHead_cons, List.forall_mem_cons]
      exact ⟨List.not_mem_cons_of_ne_of_not_mem hne ih.1, ih.2⟩

theorem unbroken_pieces (s : String) : Unbroken (pieces s) := by
  intro piece hpiece
  obtain ⟨cs, hcs, rfl⟩ := List.mem_map.mp hpiece
  rw [String.toList_ofList]
  exact newline_notMem_of_mem_splitOn s.toList cs hcs

theorem pieces_append_break (s t : String) : pieces (s ++ "\n" ++ t) = pieces s ++ pieces t := by
  have htext : (s ++ "\n" ++ t).toList = s.toList ++ '\n' :: t.toList := by simp
  rw [pieces, htext, List.splitOn_append_cons_self, List.map_append, pieces, pieces]

theorem pieces_of_notMem {s : String} (h : '\n' ∉ s.toList) : pieces s = [s] := by
  rw [pieces, List.splitOn_eq_singleton h, List.map_singleton, String.ofList_toList]

@[simp] theorem lines_empty : lines "" = [] := rfl

theorem lines_append_break (s : String) : lines (s ++ "\n") = pieces s := by
  have hpieces := pieces_append_break s ""
  rw [String.append_empty] at hpieces
  rw [lines, hpieces]
  exact List.dropLast_concat

theorem lines_append {s : String} (h : IsWhole s) (t : String) :
    lines (s ++ t) = lines s ++ lines t := by
  rcases h with rfl | ⟨s, rfl⟩
  · simp
  · rw [lines_append_break, lines, pieces_append_break,
      List.dropLast_append_of_ne_nil (pieces_ne_nil t), lines]

theorem lines_line {s : String} (h : '\n' ∉ s.toList) : lines (s ++ "\n") = [s] := by
  rw [lines_append_break, pieces_of_notMem h]

theorem isWhole_line (s : String) : IsWhole (s ++ "\n") := .inr ⟨s, rfl⟩

theorem IsWhole.append {s t : String} (hs : IsWhole s) (ht : IsWhole t) : IsWhole (s ++ t) := by
  rcases ht with rfl | ⟨t, rfl⟩
  · simpa using hs
  · exact .inr ⟨s ++ t, by rw [String.append_assoc]⟩

/-- The text of some lines. -/
def ofLines (lines : List String) : String := String.join (lines.map (· ++ "\n"))

@[simp] theorem ofLines_nil : ofLines [] = "" := rfl

@[simp] theorem ofLines_cons (line : String) (rest : List String) :
    ofLines (line :: rest) = line ++ "\n" ++ ofLines rest := by
  simp [ofLines]

theorem isWhole_ofLines (lines : List String) : IsWhole (ofLines lines) := by
  induction lines with
  | nil => exact .inl rfl
  | cons line rest ih =>
    rw [ofLines_cons]
    exact (isWhole_line line).append ih

theorem lines_ofLines {ls : List String} (h : Unbroken ls) : lines (ofLines ls) = ls := by
  induction ls with
  | nil => rfl
  | cons l ls ih =>
    obtain ⟨hl, hls⟩ := unbroken_cons.mp h
    rw [ofLines_cons, lines_append (isWhole_line l), lines_line hl, ih hls]
    rfl

theorem ofLines_eq_intercalate {ls : List String} (h : ls ≠ []) :
    ofLines ls = "\n".intercalate ls ++ "\n" := by
  induction ls with
  | nil => exact absurd rfl h
  | cons l ls ih =>
    cases ls with
    | nil => simp
    | cons next ls =>
      rw [ofLines_cons, ih (List.cons_ne_nil _ _), String.intercalate_cons_cons]
      simp only [String.append_assoc]

theorem intercalate_pieces (s : String) : "\n".intercalate (pieces s) = s := by
  apply String.toList_injective
  rw [String.toList_intercalate, pieces, List.map_map]
  simp [Function.comp_def]

theorem ofLines_lines {s : String} (h : IsWhole s) : ofLines (lines s) = s := by
  rcases h with rfl | ⟨s, rfl⟩
  · rfl
  · rw [lines_append_break, ofLines_eq_intercalate (pieces_ne_nil s), intercalate_pieces]

end Groundplan.Text
