import Groundplan.Generation.Declaration
import Groundplan.Proofs.Lines
import Groundplan.Proofs.Reader

/-!
# Assignments of values to variables

The file of variable values has a line for each variable to which the project gives a value. It can
be read back: line by line, each parted at its first equals sign between blanks, with a literal behind
it.
-/

namespace Groundplan

open Text

/-- Parts a line at its first equals sign that stands between blanks. -/
def splitAssignment : List Char → Option (List Char × List Char)
  | ' ' :: '=' :: ' ' :: cs => some ([], cs)
  | c :: cs => (splitAssignment cs).map fun (name, literal) => (c :: name, literal)
  | [] => none

/-- Reads a line that consists of a name, an equals sign and a literal. -/
def readAssignment? (line : String) : Option (String × String) := do
  let (name, literal) ← splitAssignment line.toList
  let (value, rest) ← readLiteral? literal
  if rest = [] then some (String.ofList name, value) else none

def readAssignments? (text : String) : Option (List (String × String)) :=
  (lines text).mapM readAssignment?

/-- Whether a name has neither blanks nor line breaks. -/
def IsOneWord (name : String) : Prop := ' ' ∉ name.toList ∧ '\n' ∉ name.toList

theorem isOneWord_of_isBareWord {name : String} (h : isBareWord name = true) : IsOneWord name :=
  ⟨(isWord_of_isBareWord h).notMem rfl, (isWord_of_isBareWord h).notMem rfl⟩

/-- The line that gives a name a value. -/
def assignmentLine (a : String × String) : String := a.1 ++ " = " ++ quote a.2

theorem toList_assignmentLine (a : String × String) : (assignmentLine a).toList =
    a.1.toList ++ ' ' :: '=' :: ' ' :: (quote a.2).toList := by
  simp [assignmentLine]

theorem splitAssignment_cons {c : Char} (h : c ≠ ' ') (cs : List Char) :
    splitAssignment (c :: cs) =
      (splitAssignment cs).map fun (name, literal) => (c :: name, literal) := by
  rw [splitAssignment.eq_def]
  split <;> simp_all

theorem splitAssignment_append {name : List Char} (h : ' ' ∉ name) (cs : List Char) :
    splitAssignment (name ++ ' ' :: '=' :: ' ' :: cs) = some (name, cs) := by
  induction name with
  | nil => rfl
  | cons c name ih =>
    rw [List.mem_cons, not_or] at h
    rw [List.cons_append, splitAssignment_cons (Ne.symm h.1), ih h.2]
    rfl

theorem newline_notMem_assignmentLine {a : String × String} (h : IsOneWord a.1) :
    '\n' ∉ (assignmentLine a).toList := by
  have hvalue : '\n' ∉ escapeChars a.2.toList := newline_notMem_escapeChars _
  simp [toList_assignmentLine, toList_quote, h.2, hvalue]

theorem readAssignment?_assignmentLine {a : String × String} (h : IsOneWord a.1) :
    readAssignment? (assignmentLine a) = some a := by
  have hsplit := splitAssignment_append h.1 (quote a.2).toList
  have hliteral := readLiteral?_quote a.2 []
  rw [List.append_nil] at hliteral
  rw [readAssignment?, toList_assignmentLine, hsplit]
  simp [hliteral]

theorem lines_ofLines_assignments {assigned : List (String × String)}
    (h : ∀ a ∈ assigned, IsOneWord a.1) :
    lines (ofLines (assigned.map assignmentLine)) = assigned.map assignmentLine :=
  lines_ofLines (List.forall_mem_map.mpr fun a ha => newline_notMem_assignmentLine (h a ha))

theorem readAssignments?_ofLines {assigned : List (String × String)}
    (h : ∀ a ∈ assigned, IsOneWord a.1) :
    readAssignments? (ofLines (assigned.map assignmentLine)) = some assigned := by
  rw [readAssignments?, lines_ofLines_assignments h]
  induction assigned with
  | nil => rfl
  | cons a assigned ih =>
    obtain ⟨ha, hassigned⟩ := List.forall_mem_cons.mp h
    rw [List.map_cons, List.mapM_cons, readAssignment?_assignmentLine ha, ih hassigned]
    rfl

namespace Variable

/-- What a project assigns to a variable: nothing if the value is empty. -/
def value? (values : Dictionary String) (v : Variable) : Option String :=
  (values.get? v.name).filter (!·.isEmpty)

/-- The assignments to declared variables, in the order of their declarations. -/
def assignments (declared : List Variable) (values : Dictionary String) : List (String × String) :=
  declared.filterMap fun v => (v.value? values).map (v.name, ·)

variable {declared : List Variable} {values : Dictionary String}

theorem value?_eq_some_iff {v : Variable} {value : String} :
    v.value? values = some value ↔ values.get? v.name = some value ∧ value ≠ "" := by
  simp [value?, Option.filter_eq_some_iff]

theorem mem_assignments_iff {name value : String} : (name, value) ∈ assignments declared values ↔
    name ∈ declared.map (·.name) ∧ values.get? name = some value ∧ value ≠ "" := by
  simp only [assignments, List.mem_filterMap, Option.map_eq_some_iff, value?_eq_some_iff,
    Prod.mk.injEq, List.mem_map]
  constructor
  · rintro ⟨v, hv, other, hvalue, rfl, rfl⟩
    exact ⟨⟨v, hv, rfl⟩, hvalue⟩
  · rintro ⟨⟨v, hv, rfl⟩, hvalue⟩
    exact ⟨v, hv, value, hvalue, rfl, rfl⟩

theorem map_fst_assignments_sublist (declared : List Variable) (values : Dictionary String) :
    ((assignments declared values).map (·.1)).Sublist (declared.map (·.name)) := by
  induction declared with
  | nil => exact .slnil
  | cons v declared ih =>
    rw [assignments, List.filterMap_cons]
    cases v.value? values with
    | none => exact ih.cons _
    | some value => exact ih.cons_cons _

theorem filterMap_valueLine? (declared : List Variable) (values : Dictionary String) :
    declared.filterMap (·.valueLine? values) = (assignments declared values).map assignmentLine := by
  rw [assignments, List.map_filterMap]
  refine List.filterMap_congr fun v _ => ?_
  rw [valueLine?, Option.map_map]
  rfl

theorem valueFile?_eq (declared : List Variable) (values : Dictionary String) :
    valueFile? declared values = if assignments declared values = [] then none
      else some (ofLines ((assignments declared values).map assignmentLine)) := by
  rw [valueFile?, filterMap_valueLine?]
  cases assignments declared values with
  | nil => rfl
  | cons a rest =>
    rw [if_neg (List.cons_ne_nil a rest), ofLines_eq_intercalate (by simp)]
    rfl

theorem valueFile?_eq_none_iff : valueFile? declared values = none ↔
    ∀ v ∈ declared, ∀ value, values.get? v.name = some value → value = "" := by
  have hnone : valueFile? declared values = none ↔ assignments declared values = [] := by
    rw [valueFile?_eq]
    split <;> simp_all
  rw [hnone, List.eq_nil_iff_forall_not_mem]
  constructor
  · intro h v hv value hvalue
    refine Decidable.byContradiction fun hne => ?_
    exact h (v.name, value) (mem_assignments_iff.mpr ⟨List.mem_map_of_mem hv, hvalue, hne⟩)
  · rintro h ⟨name, value⟩ ha
    obtain ⟨hname, hvalue, hne⟩ := mem_assignments_iff.mp ha
    obtain ⟨v, hv, rfl⟩ := List.mem_map.mp hname
    exact hne (h v hv value hvalue)

theorem eq_ofLines_of_valueFile? {text : String} (h : valueFile? declared values = some text) :
    text = ofLines ((assignments declared values).map assignmentLine) := by
  rw [valueFile?_eq] at h
  split at h
  · cases h
  · exact (Option.some.inj h).symm

theorem valueFile?_congr {others : Dictionary String}
    (h : ∀ v ∈ declared, others.get? v.name = values.get? v.name) :
    valueFile? declared others = valueFile? declared values := by
  have hsame : assignments declared others = assignments declared values :=
    List.filterMap_congr fun v hv => by rw [value?, value?, h v hv]
  rw [valueFile?_eq, valueFile?_eq, hsame]

/-- There is no file of values just if no declared variable has a value that is not empty. Otherwise
the file consists of whole lines, one for each assignment, and from these lines the assignments are
read back: those of the declared names that have a value, once each and in the order of declaration.
Names that are not declared have no part in it. -/
theorem valueFile?_reads_back (declared : List Variable) (values : Dictionary String)
    (hnames : ∀ v ∈ declared, IsOneWord v.name)
    (hdistinct : (declared.map (·.name)).Nodup) :
    (valueFile? declared values = none ↔
      ∀ v ∈ declared, ∀ value, values.get? v.name = some value → value = "") ∧
    (∀ text, valueFile? declared values = some text →
      text = ofLines (lines text) ∧
      lines text = (assignments declared values).map assignmentLine ∧
      readAssignments? text = some (assignments declared values)) ∧
    (∀ name value, (name, value) ∈ assignments declared values ↔
      name ∈ declared.map (·.name) ∧ values.get? name = some value ∧ value ≠ "") ∧
    ((assignments declared values).map (·.1)).Sublist (declared.map (·.name)) ∧
    ((assignments declared values).map (·.1)).Nodup ∧
    ∀ others : Dictionary String, (∀ v ∈ declared, others.get? v.name = values.get? v.name) →
      valueFile? declared others = valueFile? declared values := by
  have hsublist := map_fst_assignments_sublist declared values
  have hwords : ∀ a ∈ assignments declared values, IsOneWord a.1 := by
    intro a ha
    obtain ⟨v, hv, hname⟩ := List.mem_map.mp (hsublist.subset (List.mem_map_of_mem ha))
    exact hname ▸ hnames v hv
  refine ⟨valueFile?_eq_none_iff, ?_, fun _ _ => mem_assignments_iff, hsublist,
    hdistinct.sublist hsublist, fun _ => valueFile?_congr⟩
  intro text htext
  obtain rfl := eq_ofLines_of_valueFile? htext
  exact ⟨(ofLines_lines (isWhole_ofLines _)).symm, lines_ofLines_assignments hwords,
    readAssignments?_ofLines hwords⟩

/-- A value of two lines that looks like another assignment, an empty value and an unknown name. -/
theorem valueFile?_reads_back_multiline :
    let declared : List Variable := [⟨"sku", "string", "", none, false⟩,
      ⟨"tier", "string", "", none, false⟩, ⟨"note", "string", "", none, false⟩]
    let values : Dictionary String := .ofList
      [("note", "a\\\"\ntier = \"b\"$\x7b"), ("sku", "P1v3"), ("tier", ""), ("unused", "x")]
    ∃ text, valueFile? declared values = some text ∧ readAssignments? text =
      some [("sku", "P1v3"), ("note", "a\\\"\ntier = \"b\"$\x7b")] := by
  intro declared values
  have hbare : ∀ v ∈ declared, isBareWord v.name = true := by decide
  obtain ⟨_, hread, _⟩ := valueFile?_reads_back declared values
    (fun v hv => isOneWord_of_isBareWord (hbare v hv)) (by decide)
  have hassigned : assignments declared values =
      [("sku", "P1v3"), ("note", "a\\\"\ntier = \"b\"$\x7b")] := by decide +kernel
  obtain ⟨text, htext⟩ : ∃ text, valueFile? declared values = some text := by
    rw [valueFile?_eq, hassigned]
    exact ⟨_, rfl⟩
  exact ⟨text, htext, hassigned ▸ (hread text htext).2.2⟩

end Variable

end Groundplan
