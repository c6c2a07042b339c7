import Groundplan.Markup.BuiltIn
import Mathlib.Data.List.Forall2

/-!
# Printed values are read back

The words of a printed value are found again by the automaton that reads text, and put together on
the stack they make the tree of the value. Numbers are left out: the last digit of a numeral shows
only by what comes behind it.
-/

namespace Groundplan

namespace Json

/-- The words that characters complete from a state on, and the state after them. -/
def scan (state : LexState) : List Char → List Token × LexState
  | [] => ([], state)
  | c :: cs =>
    ((state.step c).1 ++ (scan (state.step c).2 cs).1, (scan (state.step c).2 cs).2)

theorem scan_append (state : LexState) (front back : List Char) :
    scan state (front ++ back) = ((scan state front).1 ++ (scan (scan state front).2 back).1,
      (scan (scan state front).2 back).2) := by
  induction front generalizing state with
  | nil => rfl
  | cons c front ih => simp only [List.cons_append, scan, ih, List.append_assoc]

theorem foldl_readChar (read : List Token × LexState) (cs : List Char) :
    cs.foldl readChar read = ((scan read.2 cs).1.reverse ++ read.1, (scan read.2 cs).2) := by
  induction cs generalizing read with
  | nil => rfl
  | cons c cs ih => rw [List.foldl_cons, ih, scan, readChar, List.reverse_append, List.append_assoc]

theorem tokens_eq_scan (text : String) :
    tokens text = (scan .between text.toList).1 ++ (scan .between text.toList).2.finish := by
  rw [tokens, foldl_readChar]
  dsimp only
  rw [List.append_nil, List.reverse_reverse]

section Strings

theorem scan_hexDigits (units : List Nat) {a b c d : Char} {i j k l : Nat}
    (ha : hexValue a = some i) (hb : hexValue b = some j) (hc : hexValue c = some k)
    (hd : hexValue d = some l) : scan (.escape units) ['u', a, b, c, d] =
      ([], .string ((((i * 16 + j) * 16 + k) * 16 + l) :: units)) := by
  simp [scan, LexState.step, ha, hb, hc, hd]

theorem escapeControl_eq : ∀ n < 32, (escapeControl (Char.ofNat n)).toList =
    ['\\', 'u', '0', '0', Nat.digitChar (n / 16), Nat.digitChar (n % 16)] := by
  decide

theorem hexValue_digitChar : ∀ n < 16, hexValue (Nat.digitChar n) = some n := by
  decide

theorem scan_escapeControl (units : List Nat) {c : Char} (h : c.toNat < 32) :
    scan (.string units) (escapeControl c).toList = ([], .string (c.toNat :: units)) := by
  have hdigits := scan_hexDigits units (hexValue_digitChar 0 (by omega))
    (hexValue_digitChar 0 (by omega)) (hexValue_digitChar (c.toNat / 16) (by omega))
    (hexValue_digitChar (c.toNat % 16) (by omega))
  have hvalue : ((0 * 16 + 0) * 16 + c.toNat / 16) * 16 + c.toNat % 16 = c.toNat := by omega
  have htext := escapeControl_eq c.toNat h
  rw [Char.ofNat_toNat] at htext
  rw [hvalue] at hdigits
  rw [htext]
  exact hdigits

/-- However a character is printed, it is read as its code unit. -/
theorem scan_escapeChar (units : List Nat) (c : Char) :
    scan (.string units) (escapeChar c).toList = ([], .string (c.toNat :: units)) := by
  unfold escapeChar
  split
  iterate 7 rfl
  rename_i hquote hbackslash _ _ _ _ _
  split
  · exact scan_escapeControl units ‹_›
  · rename_i hprinted
    have hstep : LexState.step (.string units) c = ([], .string (c.toNat :: units)) := by
      rw [LexState.step, if_neg hquote, if_neg hbackslash, if_neg hprinted]
    simp [scan, hstep]

theorem scan_escapeChars (units : List Nat) (cs : List Char) :
    scan (.string units) (cs.flatMap fun c => (escapeChar c).toList) =
      ([], .string ((cs.map Char.toNat).reverse ++ units)) := by
  induction cs generalizing units with
  | nil => rfl
  | cons c cs ih =>
    rw [List.flatMap_cons, scan_append, scan_escapeChar, ih]
    simp

theorem not_surrogate (c : Char) :
    isHighSurrogate c.toNat = false ∧ isLowSurrogate c.toNat = false := by
  have hvalid : c.toNat < 0xd800 ∨ 0xdfff < c.toNat ∧ c.toNat < 0x110000 := c.valid
  simp only [isHighSurrogate, isLowSurrogate, Bool.and_eq_false_iff, decide_eq_false_iff_not]
  omega

theorem joinUnits_toNat (cs : List Char) : joinUnits (cs.map Char.toNat) = some cs := by
  induction cs with
  | nil => rfl
  | cons c cs ih =>
    obtain ⟨hhigh, hlow⟩ := not_surrogate c
    cases cs with
    | nil => simp [joinUnits, hhigh, hlow, Char.ofNat_toNat]
    | cons c' cs =>
      rw [List.map_cons] at ih
      rw [List.map_cons, List.map_cons, joinUnits, hhigh, hlow, ih]
      simp [Char.ofNat_toNat]

end Strings

/-- Whether a text is made up of words and leaves none of them unfinished. -/
def Spells (text : String) (words : List Token) : Prop :=
  scan .between text.toList = (words, .between)

namespace Spells

variable {text other : String} {words more : List Token}

theorem append (h : Spells text words) (h' : Spells other more) :
    Spells (text ++ other) (words ++ more) := by
  unfold Spells at h h' ⊢
  rw [String.toList_append, scan_append, h, h']

theorem tokens_eq (h : Spells text words) : tokens text = words := by
  unfold Spells at h
  rw [tokens_eq_scan, h]
  exact List.append_nil words

theorem blanks (count : Nat) :
    Spells (String.ofList (List.replicate count ' ')) [] := by
  unfold Spells
  rw [String.toList_ofList]
  induction count with
  | zero => rfl
  | succ count ih =>
    rw [List.replicate_succ, scan]
    exact ih

theorem lineBreak (depth : Nat) : Spells (lineBreak depth) [] := by
  have hbreak : Spells "\n" [] := rfl
  exact hbreak.append (blanks _)

theorem quote (s : String) : Spells (quote s) [.scalar (.text s)] := by
  have hclosed : scan (.string (s.toList.map Char.toNat).reverse) ['"'] =
      ([.scalar (.text s)], .between) := by
    simp [scan, LexState.step, unitsScalar, joinUnits_toNat]
  have htext : (Json.quote s).toList =
      '"' :: ((s.toList.flatMap fun c => (escapeChar c).toList) ++ ['"']) := by
    simp [Json.quote, String.toList_join, List.flatMap_map]
  have hopened : LexState.step .between '"' = ([], .string []) := rfl
  unfold Spells
  rw [htext, scan, hopened, scan_append, scan_escapeChars, List.append_nil, hclosed]
  rfl

theorem intercalate {lines : List String} {wordLists : List (List Token)} (depth : Nat)
    (h : List.Forall₂ Spells lines wordLists) :
    Spells (("," ++ Json.lineBreak depth).intercalate lines) ([Token.comma].intercalate wordLists) := by
  have hmark : Spells "," [.comma] := rfl
  have hcomma := hmark.append (lineBreak depth)
  induction h with
  | nil => rfl
  | @cons line words lines wordLists hline hrest ih =>
    cases hrest with
    | nil => rwa [String.intercalate_singleton, List.intercalate_singleton]
    | cons _ _ =>
      rw [String.intercalate_cons_cons, List.intercalate_cons_cons]
      exact (hline.append hcomma).append ih

theorem enclose {opening closing : String} {first last : Token} {lines : List String}
    {wordLists : List (List Token)} (depth : Nat) (hopening : Spells opening [first])
    (hclosing : Spells closing [last]) (h : List.Forall₂ Spells lines wordLists) :
    Spells (enclose depth opening closing lines)
      (first :: [Token.comma].intercalate wordLists ++ [last]) := by
  cases h with
  | nil => exact hopening.append hclosing
  | cons hline hrest =>
    have hlines := intercalate (depth + 1) (.cons hline hrest)
    have hall := (((hopening.append (lineBreak (depth + 1))).append hlines).append
      (lineBreak depth)).append hclosing
    simp only [List.append_nil, List.singleton_append] at hall
    exact hall

end Spells

mutual

/-- The words of a value. -/
def words : Json → List Token
  | .null => [.scalar .null]
  | .bool b => [.scalar (.bool b)]
  | .number n => [.scalar (.number n)]
  | .string s => [.scalar (.text s)]
  | .array items => .openArray :: [Token.comma].intercalate (itemWords items) ++ [.closeArray]
  | .object members =>
    .openObject :: [Token.comma].intercalate (memberWords members) ++ [.closeObject]

def itemWords : List Json → List (List Token)
  | [] => []
  | item :: items => words item :: itemWords items

def memberWords : List (String × Json) → List (List Token)
  | [] => []
  | (name, value) :: members =>
    (.scalar (.text name) :: .colon :: words value) :: memberWords members

end

mutual

/-- Whether a value holds no number and no more containers in each other than a bound. -/
def isPlain (bound : Nat) : Json → Bool
  | .null | .bool _ | .string _ => true
  | .number _ => false
  | .array items => decide (0 < bound) && arePlainItems (bound - 1) items
  | .object members => decide (0 < bound) && arePlainMembers (bound - 1) members

def arePlainItems (bound : Nat) : List Json → Bool
  | [] => true
  | item :: items => isPlain bound item && arePlainItems bound items

def arePlainMembers (bound : Nat) : List (String × Json) → Bool
  | [] => true
  | (_, value) :: members => isPlain bound value && arePlainMembers bound members

end

section Plain

variable {bound : Nat}

theorem isPlain_array_iff {items : List Json} :
    (array items).isPlain (bound + 1) = true ↔ arePlainItems bound items = true := by
  simp [isPlain]

theorem isPlain_object_iff {members : List (String × Json)} :
    (object members).isPlain (bound + 1) = true ↔ arePlainMembers bound members = true := by
  simp [isPlain]

theorem arePlainItems_iff {items : List Json} :
    arePlainItems bound items = true ↔ ∀ item ∈ items, item.isPlain bound = true := by
  induction items with
  | nil => simp [arePlainItems]
  | cons item items ih => simp [arePlainItems, ih]

theorem arePlainMembers_iff {members : List (String × Json)} :
    arePlainMembers bound members = true ↔ ∀ m ∈ members, m.2.isPlain bound = true := by
  induction members with
  | nil => simp [arePlainMembers]
  | cons m members ih => simp [arePlainMembers, ih]

end Plain

mutual

theorem spells_indented {bound : Nat} (depth : Nat) :
    ∀ value : Json, value.isPlain bound = true → Spells (indented depth value) (words value)
  | .null, _ => by
    rw [indented, words]
    rfl
  | .bool b, _ => by
    rw [indented, words]
    cases b <;> rfl
  | .string s, _ => .quote s
  | .array items, h =>
    .enclose depth rfl rfl (spells_indentedItems (depth + 1) items (Bool.and_eq_true_iff.mp h).2)
  | .object members, h =>
    .enclose depth rfl rfl
      (spells_indentedMembers (depth + 1) members (Bool.and_eq_true_iff.mp h).2)

theorem spells_indentedItems {bound : Nat} (depth : Nat) :
    ∀ items : List Json, arePlainItems bound items = true →
      List.Forall₂ Spells (indentedItems depth items) (itemWords items)
  | [], _ => .nil
  | item :: items, h =>
    .cons (spells_indented depth item (Bool.and_eq_true_iff.mp h).1)
      (spells_indentedItems depth items (Bool.and_eq_true_iff.mp h).2)

theorem spells_indentedMembers {bound : Nat} (depth : Nat) :
    ∀ members : List (String × Json), arePlainMembers bound members = true →
      List.Forall₂ Spells (indentedMembers depth members) (memberWords members)
  | [], _ => .nil
  | (name, value) :: members, h => by
    obtain ⟨hvalue, hmembers⟩ := Bool.and_eq_true_iff.mp h
    have hcolon : Spells ": " [.colon] := rfl
    exact .cons (((Spells.quote name).append hcolon).append (spells_indented depth value hvalue))
      (spells_indentedMembers depth members hmembers)

end

/-- Whether words, wherever a value may come, are taken for a tree. -/
def Builds (words : List Token) (tree : Markup) (bound : Nat) : Prop :=
  ∀ (stack : List Frame) (orClose : Bool), stack.length + bound ≤ depthLimit →
    words.foldl ReadState.step (.reading stack (.value orClose)) = .deliver tree stack

theorem closed_of_lt {around : Nat} (h : around < depthLimit) (tree : Markup) :
    closed around tree = tree := by
  rw [closed, if_pos h]

theorem builds_scalar (value : Scalar) (bound : Nat) :
    Builds [.scalar value] (.scalar value none) bound := fun _ _ _ => rfl

/-- A kind of container as it is read: the frame of what it holds so far, the last one first, what
may come next in it, and its tree. -/
structure Container (α : Type) where
  opening : Token
  closing : Token
  frame : List α → Frame
  expects : Bool → Expectation
  tree : List α → Markup
  step_opening : ∀ stack orClose, ReadState.step (.reading stack (.value orClose)) opening =
    .reading (frame [] :: stack) (expects true)
  step_comma : ∀ stack done, ReadState.step (.reading (frame done :: stack) .separator) .comma =
    .reading (frame done :: stack) (expects false)
  step_closing : ∀ stack done, ReadState.step (.reading (frame done :: stack) .separator) closing =
    .deliver (closed stack.length (tree done.reverse)) stack
  step_closing_empty : ∀ stack, ReadState.step (.reading (frame [] :: stack) (expects true)) closing =
    .deliver (closed stack.length (tree [])) stack

namespace Container

def array : Container Markup where
  opening := .openArray
  closing := .closeArray
  frame := .items
  expects := .value
  tree := .list true
  step_opening _ _ := rfl
  step_comma _ _ := rfl
  step_closing _ _ := rfl
  step_closing_empty _ := rfl

def object : Container (Markup × Markup) where
  opening := .openObject
  closing := .closeObject
  frame done := .fields done none
  expects := .key
  tree := .record
  step_opening _ _ := rfl
  step_comma _ _ := rfl
  step_closing _ _ := rfl
  step_closing_empty _ := rfl

variable {α : Type} (k : Container α) {bound : Nat} {wordLists : List (List Token)} {items : List α}

/-- Whether words, wherever an item of a container may come, are taken for that item. -/
def Takes (bound : Nat) (words : List Token) (item : α) : Prop :=
  ∀ (stack : List Frame) (done : List α) (orClose : Bool), stack.length + 1 + bound ≤ depthLimit →
    words.foldl ReadState.step (.reading (k.frame done :: stack) (k.expects orClose)) =
      .reading (k.frame (item :: done) :: stack) .separator

theorem takes_array {words : List Token} {tree : Markup} (h : Builds words tree bound) :
    array.Takes bound words tree :=
  fun stack done orClose hstack => h (.items done :: stack) orClose hstack

theorem takes_object (name : String) {words : List Token} {tree : Markup}
    (h : Builds words tree bound) : object.Takes bound (.scalar (.text name) :: .colon :: words)
      (.scalar (.text name) none, tree) :=
  fun stack done _ hstack => h (.fields done (some (.scalar (.text name) none)) :: stack) false hstack

theorem foldl_items (h : List.Forall₂ (k.Takes bound) wordLists items) (hne : wordLists ≠ [])
    {stack : List Frame} (hstack : stack.length + 1 + bound ≤ depthLimit) (done : List α)
    (orClose : Bool) :
    ([Token.comma].intercalate wordLists).foldl ReadState.step
        (.reading (k.frame done :: stack) (k.expects orClose)) =
      .reading (k.frame (items.reverse ++ done) :: stack) .separator := by
  induction h generalizing done orClose with
  | nil => exact absurd rfl hne
  | @cons words item wordLists items hwords hrest ih =>
    have hfirst := hwords stack done orClose hstack
    cases hrest with
    | nil => rw [List.intercalate_singleton, hfirst, List.reverse_singleton, List.singleton_append]
    | cons _ _ =>
      rw [List.intercalate_cons_cons, List.foldl_append, List.foldl_append, hfirst, List.foldl_cons,
        List.foldl_nil, k.step_comma, ih (List.cons_ne_nil _ _), List.reverse_cons (a := item),
        List.append_assoc, List.singleton_append]

theorem builds (h : List.Forall₂ (k.Takes bound) wordLists items) :
    Builds (k.opening :: [Token.comma].intercalate wordLists ++ [k.closing]) (k.tree items)
      (bound + 1) := by
  intro stack orClose hstack
  have hclosed : closed stack.length (k.tree items) = k.tree items := closed_of_lt (by omega) _
  rw [List.cons_append, List.foldl_cons, k.step_opening, List.foldl_append]
  cases h with
  | nil =>
    refine (k.step_closing_empty stack).trans ?_
    rw [hclosed]
  | @cons words item wordLists items hwords hrest =>
    rw [k.foldl_items (.cons hwords hrest) (List.cons_ne_nil _ _) (by omega), List.append_nil]
    refine (k.step_closing stack _).trans ?_
    rw [List.reverse_reverse, hclosed]

end Container

mutual

theorem builds_words : ∀ (bound : Nat) (value : Json), value.isPlain bound = true →
    Builds (words value) value.toMarkup bound
  | bound, .null, _ => builds_scalar .null bound
  | bound, .bool b, _ => builds_scalar (.bool b) bound
  | bound, .string s, _ => builds_scalar (.text s) bound
  | 0, .array _, h => nomatch h
  | bound + 1, .array items, h =>
    Container.array.builds (takes_itemWords bound items (isPlain_array_iff.mp h))
  | 0, .object _, h => nomatch h
  | bound + 1, .object members, h =>
    Container.object.builds (takes_memberWords bound members (isPlain_object_iff.mp h))

theorem takes_itemWords : ∀ (bound : Nat) (items : List Json), arePlainItems bound items = true →
    List.Forall₂ (Container.array.Takes bound) (itemWords items) (toMarkupItems items)
  | _, [], _ => .nil
  | bound, item :: items, h =>
    .cons (Container.takes_array (builds_words bound item (Bool.and_eq_true_iff.mp h).1))
      (takes_itemWords bound items (Bool.and_eq_true_iff.mp h).2)

theorem takes_memberWords : ∀ (bound : Nat) (members : List (String × Json)),
    arePlainMembers bound members = true →
      List.Forall₂ (Container.object.Takes bound) (memberWords members) (toMarkupMembers members)
  | _, [], _ => .nil
  | bound, (name, value) :: members, h =>
    .cons (Container.takes_object name (builds_words bound value (Bool.and_eq_true_iff.mp h).1))
      (takes_memberWords bound members (Bool.and_eq_true_iff.mp h).2)

end

/-- A value without numbers that is not nested too deeply is what its printed text stands for. -/
theorem parse_pretty {value : Json} (h : value.isPlain depthLimit = true) :
    parse value.pretty = (value.toMarkup, true) := by
  have hwords : tokens value.pretty = words value := (spells_indented 0 value h).tokens_eq
  have hbuilt := builds_words depthLimit value h [] false (Nat.le_of_eq (Nat.zero_add _))
  rw [parse, hwords, hbuilt]
  rfl

end Json

namespace Notations

/-- Whether a text stands for a value: whatever it is read as, it gives what the value gives. -/
def Stores (n : Notations) (text : String) (value : Json) : Prop :=
  ∀ {α : Type} (read : Reader α), (n.readJson read text).toOption = (read value.toMarkup).toOption

/-- What is relied on in the printing of reports: a value without numbers that is not nested too
deeply can be printed, and the text stands for the value. -/
structure Faithful (n : Notations) : Prop where
  exists_printJson : ∀ value : Json, value.isPlain Json.depthLimit = true →
    ∃ text, n.printJson value = .ok text ∧ n.Stores text value

theorem toOption_mapError {ε ε' α : Type} (x : Except ε α) (f : ε → ε') :
    (x.mapError f).toOption = x.toOption := by
  cases x <;> rfl

theorem faithful_builtIn : builtIn.Faithful where
  exists_printJson value h := by
    refine ⟨value.pretty, rfl, fun read => ?_⟩
    have hread : Json.readText read value.pretty = read value.toMarkup := by
      rw [Json.readText, Json.parse_pretty h]
      dsimp only
      cases read value.toMarkup <;> rfl
    exact (toOption_mapError _ _).trans (congrArg _ hread)

end Notations

end Groundplan
