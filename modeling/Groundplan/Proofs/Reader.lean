import Groundplan.Config.Render
import Groundplan.Proofs.BlockContents
import Groundplan.Proofs.Literals
import Groundplan.Proofs.Numerals

/-!
# A reader of configuration text

The reader takes blanks, line breaks and commas for nothing but separators, ends a word at the next
mark, and reads a literal up to its closing quote. Its fuel bounds the number of calls; twice the
length of the text is enough.
-/

namespace Groundplan

open Text

/-- Blanks, line breaks and commas, which only part what stands around them. -/
def isLayout (c : Char) : Bool := [' ', '\n', ','].contains c

/-- The characters at which a word ends. -/
def marks : List Char := [' ', '\n', ',', '"', '=', '[', ']', '{', '}']

def isMark (c : Char) : Bool := marks.contains c

def skipLayout (cs : List Char) : List Char := cs.dropWhile isLayout

/-- What comes after a mark, if that is what comes next. -/
def after? (mark : Char) (cs : List Char) : Option (List Char) :=
  match skipLayout cs with
  | c :: rest => if c = mark then some rest else none
  | [] => none

def takeWord? (cs : List Char) : Option (String × List Char) :=
  match cs.takeWhile (!isMark ·) with
  | [] => none
  | word => some (String.ofList word, cs.dropWhile (!isMark ·))

/-- A key or the type of a block: a word or a literal. -/
def takeName? : List Char → Option (String × List Char)
  | '"' :: cs => readLiteral? ('"' :: cs)
  | cs => takeWord? cs

def wordValue (word : String) : Value :=
  if word = "true" then .bool true else if word = "false" then .bool false else .expression word

mutual

/-- Reads a value; a number is read as the expression with its text. -/
def readValue : Nat → List Char → Option (Value × List Char)
  | 0, _ => none
  | fuel + 1, '[' :: cs => (readList fuel cs).map fun (items, rest) => (.list items, rest)
  | fuel + 1, '{' :: cs => (readEntries fuel cs).map fun (entries, rest) => (.object entries, rest)
  | _ + 1, '"' :: cs => (readLiteral? ('"' :: cs)).map fun (s, rest) => (.string s, rest)
  | _ + 1, cs => (takeWord? cs).map fun (word, rest) => (wordValue word, rest)

def readList : Nat → List Char → Option (List Value × List Char)
  | 0, _ => none
  | fuel + 1, cs =>
    match after? ']' cs with
    | some rest => some ([], rest)
    | none => do
      let (item, rest) ← readValue fuel (skipLayout cs)
      let (items, rest) ← readList fuel rest
      return (item :: items, rest)

def readEntries : Nat → List Char → Option (List (String × Value) × List Char)
  | 0, _ => none
  | fuel + 1, cs =>
    match after? '}' cs with
    | some rest => some ([], rest)
    | none => do
      let (key, rest) ← takeName? (skipLayout cs)
      let rest ← after? '=' rest
      let (value, rest) ← readValue fuel (skipLayout rest)
      let (entries, rest) ← readEntries fuel rest
      return ((key, value) :: entries, rest)

end

/-- The labels of a block, up to the brace that opens its body. -/
def readLabels : Nat → List Char → Option (List String × List Char)
  | 0, _ => none
  | fuel + 1, cs =>
    match after? '{' cs with
    | some rest => some ([], rest)
    | none => do
      let (label, rest) ← readLiteral? (skipLayout cs)
      let (labels, rest) ← readLabels fuel rest
      return (label :: labels, rest)

/-- Reads the items of a body, up to the brace that closes it. -/
def readBody : Nat → List Char → Option (List BodyItem × List Char)
  | 0, _ => none
  | fuel + 1, cs =>
    match after? '}' cs with
    | some rest => some ([], rest)
    | none => do
      let (name, rest) ← takeName? (skipLayout cs)
      match after? '=' rest with
      | some rest =>
        let (value, rest) ← readValue fuel (skipLayout rest)
        let (items, rest) ← readBody fuel rest
        return (.setting name value :: items, rest)
      | none =>
        let (labels, rest) ← readLabels fuel rest
        let (body, rest) ← readBody fuel rest
        let (items, rest) ← readBody fuel rest
        return (.block ⟨name, labels, body⟩ :: items, rest)

def readBlocks : Nat → List Char → Option (List Block)
  | 0, _ => none
  | fuel + 1, cs =>
    match skipLayout cs with
    | [] => some []
    | _ :: _ => do
      let (type, rest) ← takeWord? (skipLayout cs)
      let (labels, rest) ← readLabels fuel rest
      let (body, rest) ← readBody fuel rest
      let blocks ← readBlocks fuel rest
      return ⟨type, labels, body⟩ :: blocks

def readDocument (text : String) : Option (List Block) :=
  readBlocks (2 * text.toList.length + 2) text.toList

section Layout

def AreLayout (cs : List Char) : Prop := ∀ c ∈ cs, isLayout c = true

theorem areLayout_nil : AreLayout [] := fun _ hc => absurd hc List.not_mem_nil

theorem AreLayout.append {first second : List Char} (hfirst : AreLayout first)
    (hsecond : AreLayout second) : AreLayout (first ++ second) := by
  intro c hc
  rcases List.mem_append.mp hc with hc | hc
  · exact hfirst c hc
  · exact hsecond c hc

theorem areLayout_space : AreLayout [' '] := by simp [AreLayout, isLayout]

theorem areLayout_break : AreLayout ['\n'] := by simp [AreLayout, isLayout]

theorem areLayout_blanks (n : Nat) : AreLayout (blanks n).toList := by
  intro c hc
  rw [blanks, String.toList_ofList] at hc
  rw [List.eq_of_mem_replicate hc]
  rfl

theorem areLayout_indent (depth : Nat) : AreLayout (indent depth).toList := areLayout_blanks _

theorem skipLayout_append {lead : List Char} (h : AreLayout lead) (cs : List Char) :
    skipLayout (lead ++ cs) = skipLayout cs :=
  List.dropWhile_append_of_pos h

/-- Whether some text starts with a character that neither is layout nor closes anything. -/
def Begins (cs : List Char) : Prop :=
  ∃ c rest, cs = c :: rest ∧ isLayout c = false ∧ c ≠ ']' ∧ c ≠ '}'

theorem Begins.append {cs : List Char} (h : Begins cs) (more : List Char) : Begins (cs ++ more) := by
  obtain ⟨c, rest, rfl, hc⟩ := h
  exact ⟨c, rest ++ more, rfl, hc⟩

theorem Begins.length_pos {cs : List Char} (h : Begins cs) : 0 < cs.length := by
  obtain ⟨c, rest, rfl, _⟩ := h
  exact Nat.succ_pos rest.length

theorem Begins.skipLayout {cs lead : List Char} (h : Begins cs) (hlead : AreLayout lead) :
    skipLayout (lead ++ cs) = cs := by
  obtain ⟨c, rest, rfl, hc, _⟩ := h
  rw [skipLayout_append hlead, Groundplan.skipLayout, List.dropWhile_cons_of_neg (by simp [hc])]

theorem after?_eq_none {mark c : Char} {lead : List Char} (hlead : AreLayout lead)
    (hc : isLayout c = false) (hne : c ≠ mark) (cs : List Char) :
    after? mark (lead ++ c :: cs) = none := by
  rw [after?, skipLayout_append hlead, skipLayout, List.dropWhile_cons_of_neg (by simp [hc])]
  exact if_neg hne

theorem after?_append {mark : Char} {lead : List Char} (hlead : AreLayout lead)
    (hmark : isLayout mark = false) (cs : List Char) :
    after? mark (lead ++ mark :: cs) = some cs := by
  rw [after?, skipLayout_append hlead, skipLayout, List.dropWhile_cons_of_neg (by simp [hmark])]
  exact if_pos rfl

theorem Begins.after?_eq_none {cs lead : List Char} (h : Begins cs) (hlead : AreLayout lead) :
    after? ']' (lead ++ cs) = none ∧ after? '}' (lead ++ cs) = none := by
  obtain ⟨c, rest, rfl, hc, hlist, hobject⟩ := h
  exact ⟨Groundplan.after?_eq_none hlead hc hlist rest, Groundplan.after?_eq_none hlead hc hobject rest⟩

end Layout

section Words

/-- Whether what follows a word ends it. -/
def Stops (rest : List Char) : Prop := ∀ c ∈ rest.head?, isMark c = true

theorem stops_cons {c : Char} (h : isMark c = true) (rest : List Char) : Stops (c :: rest) := by
  intro other hother
  rw [Option.mem_def, List.head?_cons, Option.some.injEq] at hother
  rwa [← hother]

theorem stops_break (rest : List Char) : Stops (['\n'] ++ rest) := stops_cons rfl rest

def IsWord (cs : List Char) : Prop := cs ≠ [] ∧ ∀ c ∈ cs, isMark c = false

theorem IsWord.notMem {cs : List Char} (h : IsWord cs) {c : Char} (hc : isMark c = true) :
    c ∉ cs := by
  intro hmem
  rw [h.2 c hmem] at hc
  cases hc

theorem isMark_eq_false {p : Char → Bool} (hp : marks.any p = false) {c : Char}
    (h : p c = true) : isMark c = false := by
  by_cases hc : c ∈ marks
  · rw [List.any_eq_true.mpr ⟨c, hc, h⟩] at hp
    cases hp
  · simpa [isMark] using hc

theorem IsWord.begins {cs : List Char} (h : IsWord cs) : Begins cs := by
  obtain ⟨c, rest, rfl⟩ := List.exists_cons_of_ne_nil h.1
  have hc : c ∉ marks := by simpa [isMark] using h.2 c List.mem_cons_self
  refine ⟨c, rest, rfl, ?_, ?_, ?_⟩
  · simp [marks] at hc
    simp [isLayout, hc]
  · rintro rfl
    exact hc (by decide)
  · rintro rfl
    exact hc (by decide)

theorem takeWord?_append {word : String} {rest : List Char} (hword : IsWord word.toList)
    (hrest : Stops rest) : takeWord? (word.toList ++ rest) = some (word, rest) := by
  have hall : ∀ c ∈ word.toList, (!isMark c) = true := by
    intro c hc
    rw [hword.2 c hc]
    rfl
  have hnone : rest.takeWhile (!isMark ·) = [] ∧ rest.dropWhile (!isMark ·) = rest := by
    cases rest with
    | nil => exact ⟨rfl, rfl⟩
    | cons c rest =>
      have hc : isMark c = true := hrest c rfl
      exact ⟨by simp [hc], by simp [hc]⟩
  obtain ⟨c, cs, hcons⟩ := List.exists_cons_of_ne_nil hword.1
  rw [takeWord?, List.takeWhile_append_of_pos hall, List.dropWhile_append_of_pos hall, hnone.1,
    hnone.2, List.append_nil, hcons]
  dsimp only
  rw [← hcons, String.ofList_toList]

theorem isWord_bool (b : Bool) : IsWord (if b then "true" else "false").toList := by
  cases b <;> exact ⟨by decide, by simp [isMark, marks]⟩

theorem isWord_of_isBareWord {s : String} (h : isBareWord s = true) : IsWord s.toList := by
  unfold isBareWord at h
  split at h
  · cases h
  · rename_i c cs hcons
    rw [Bool.and_eq_true, List.all_eq_true] at h
    rw [hcons]
    refine ⟨by simp, ?_⟩
    intro other hother
    rcases List.mem_cons.mp hother with rfl | hother
    · exact isMark_eq_false (p := isWordStart) rfl h.1
    · exact isMark_eq_false (p := isWordPart) rfl (h.2 other hother)

theorem Decimal.IsNumeral.isWord {cs : List Char} (h : IsNumeral cs) : IsWord cs := by
  obtain ⟨c, rest, rfl, _⟩ := h.start
  refine ⟨by simp, ?_⟩
  intro other hother
  apply isMark_eq_false (p := fun c => isDigit c || ['.', '-', '+', 'e'].contains c) rfl
  simpa using h.chars other hother

/-- A letter of any alphabet: every character outside ASCII may be one. -/
def isExpressionStart (c : Char) : Bool := isLetter c || c == '_' || 127 < c.toNat

def isExpressionPart (c : Char) : Bool :=
  isExpressionStart c || isDigit c || ['.', '(', ')'].contains c

/-- Whether an expression is a single word that is no number and neither true nor false. -/
def isExpressionWord (e : String) : Bool :=
  match e.toList with
  | [] => false
  | c :: cs => isExpressionStart c && cs.all isExpressionPart && e != "true" && e != "false"

theorem isWord_of_isExpressionWord {e : String} (h : isExpressionWord e = true) :
    IsWord e.toList := by
  unfold isExpressionWord at h
  split at h
  · cases h
  · rename_i c cs hcons
    simp only [Bool.and_eq_true, List.all_eq_true] at h
    obtain ⟨⟨⟨hstart, hpart⟩, _⟩, _⟩ := h
    rw [hcons]
    refine ⟨by simp, ?_⟩
    intro other hother
    rcases List.mem_cons.mp hother with rfl | hother
    · exact isMark_eq_false (p := isExpressionStart) rfl hstart
    · exact isMark_eq_false (p := isExpressionPart) rfl (hpart other hother)

theorem wordValue_of_isExpressionWord {e : String} (h : isExpressionWord e = true) :
    wordValue e = .expression e := by
  unfold isExpressionWord at h
  split at h
  · cases h
  · simp only [Bool.and_eq_true, bne_iff_ne] at h
    rw [wordValue, if_neg h.1.2, if_neg h.2]

theorem isExpressionStart_of_isDigit {c : Char} (h : isDigit c = true ∨ c = '-') :
    isExpressionStart c = false := by
  rcases h with h | rfl
  · have hcode : ∀ d : Char, d ≤ c ↔ d.toNat ≤ c.toNat := fun _ => Iff.rfl
    simp only [isDigit, Bool.and_eq_true, decide_eq_true_eq] at h
    have hlow : 48 ≤ c.toNat := h.1
    have hhigh : c.toNat ≤ 57 := h.2
    have hne : c ≠ '_' := by
      rintro rfl
      exact absurd hhigh (by decide)
    simp [isExpressionStart, isLetter, hcode, hne]
    omega
  · rfl

theorem Decimal.IsNumeral.isExpressionWord_eq_false {s : String} (h : IsNumeral s.toList) :
    isExpressionWord s = false := by
  obtain ⟨c, rest, hcons, hc⟩ := h.start
  rw [isExpressionWord, hcons]
  simp [isExpressionStart_of_isDigit hc]

theorem Decimal.IsNumeral.wordValue_eq {s : String} (h : IsNumeral s.toList) :
    wordValue s = .expression s := by
  obtain ⟨c, rest, hcons, hc⟩ := h.start
  have hne : ∀ word : String, (∃ first tail, word.toList = first :: tail ∧
      isExpressionStart first = true) → s ≠ word := by
    rintro word ⟨first, tail, hword, hfirst⟩ rfl
    rw [hcons] at hword
    obtain ⟨rfl, -⟩ := List.cons.inj hword
    rw [isExpressionStart_of_isDigit hc] at hfirst
    cases hfirst
  rw [wordValue, if_neg (hne "true" ⟨'t', _, rfl, rfl⟩), if_neg (hne "false" ⟨'f', _, rfl, rfl⟩)]

theorem begins_quote (s : String) : Begins (quote s).toList :=
  ⟨'"', _, toList_quote s, by decide, by decide, by decide⟩

theorem begins_renderKey (key : String) : Begins (renderKey key).toList := by
  rw [renderKey]
  split
  · rename_i hbare
    exact (isWord_of_isBareWord hbare).begins
  · exact begins_quote key

theorem takeName?_of_isWord {word : String} {rest : List Char} (hword : IsWord word.toList)
    (hrest : Stops rest) : takeName? (word.toList ++ rest) = some (word, rest) := by
  obtain ⟨c, cs, hcons⟩ := List.exists_cons_of_ne_nil hword.1
  have hc : c ≠ '"' := by
    rintro rfl
    exact absurd (hword.2 '"' (hcons ▸ List.mem_cons_self)) (by decide)
  rw [← takeWord?_append hword hrest, hcons, List.cons_append, takeName?.eq_2]
  simpa using hc

theorem takeName?_renderKey (key : String) {rest : List Char} (hrest : Stops rest) :
    takeName? ((renderKey key).toList ++ rest) = some (key, rest) := by
  rw [renderKey]
  split
  · rename_i hbare
    exact takeName?_of_isWord (isWord_of_isBareWord hbare) hrest
  · rw [← readLiteral?_quote key rest, toList_quote, List.cons_append, takeName?]

end Words

def keyPadding (width : Nat) (key : String) : List Char :=
  (blanks (width - (renderKey key).length)).toList ++ [' ']

theorem toList_renderLine (depth width : Nat) (key value : String) :
    (renderLine depth width key value).toList = (indent depth).toList ++
      ((renderKey key).toList ++ (keyPadding width key ++ '=' :: ' ' :: (value.toList ++ ['\n']))) := by
  simp [renderLine, padKey, keyPadding]

theorem length_renderLine (depth width : Nat) (key value : String) :
    value.toList.length + 3 < (renderLine depth width key value).toList.length := by
  have hkey := (begins_renderKey key).length_pos
  rw [toList_renderLine]
  simp only [List.length_append, List.length_cons, List.length_nil]
  omega

theorem areLayout_keyPadding (width : Nat) (key : String) : AreLayout (keyPadding width key) :=
  (areLayout_blanks _).append fun c hc => by rw [List.mem_singleton.mp hc]; rfl

theorem stops_keyPadding (width : Nat) (key : String) (rest : List Char) :
    Stops (keyPadding width key ++ rest) := by
  cases hpadding : keyPadding width key with
  | nil => simp [keyPadding] at hpadding
  | cons c cs =>
    have hc : isLayout c = true := areLayout_keyPadding width key c (hpadding ▸ List.mem_cons_self)
    apply stops_cons
    simp only [isLayout, isMark, marks, List.contains_eq_mem, List.mem_cons, List.not_mem_nil,
      or_false, decide_eq_true_eq] at hc ⊢
    rcases hc with rfl | rfl | rfl <;> simp

/-- A line is read as its key, its equals sign and what comes after. -/
theorem exists_rest_renderLine (depth width : Nat) (key : String) {value : String}
    (hvalue : Begins value.toList) {lead : List Char} (hlead : AreLayout lead) (more : List Char) :
    after? '}' (lead ++ ((renderLine depth width key value).toList ++ more)) = none ∧
      ∃ rest tail,
        takeName? (skipLayout (lead ++ ((renderLine depth width key value).toList ++ more))) =
          some (key, rest) ∧
        after? '=' rest = some tail ∧ skipLayout tail = value.toList ++ (['\n'] ++ more) := by
  have hindent : AreLayout (lead ++ (indent depth).toList) := hlead.append (areLayout_indent depth)
  have hbegins := (begins_renderKey key).append (keyPadding width key ++
    '=' :: ([' '] ++ (value.toList ++ (['\n'] ++ more))))
  have htext : lead ++ ((renderLine depth width key value).toList ++ more) =
      lead ++ (indent depth).toList ++ ((renderKey key).toList ++ (keyPadding width key ++
        '=' :: ([' '] ++ (value.toList ++ (['\n'] ++ more))))) := by
    simp [toList_renderLine]
  rw [htext]
  refine ⟨(hbegins.after?_eq_none hindent).2, _, _, ?_, after?_append (areLayout_keyPadding width key)
    rfl _, (hvalue.append _).skipLayout areLayout_space⟩
  rw [hbegins.skipLayout hindent, takeName?_renderKey key (stops_keyPadding width key _)]

end Groundplan
