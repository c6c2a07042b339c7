import Groundplan.Text.Quoted
import Mathlib.Tactic.SplitIfs

/-!
# Literals read back

A literal is read from left to right: a pair of a backslash and another character stands for one
character, and the first quote that belongs to no pair closes the literal. What is read from the
literal of a string is that string, whatever the string holds.
-/

namespace Groundplan.Text

/-- The character that a backslash and the given character stand for. -/
def pairValue? (c : Char) : Option Char :=
  if c = '\\' then some '\\'
  else if c = '"' then some '"'
  else if c = 'n' then some '\n'
  else if c = 'r' then some '\r'
  else if c = 't' then some '\t'
  else none

/-- Reads the body of a literal from left to right; any other pair is none. -/
def unescapeChars : List Char → Option (List Char)
  | [] => some []
  | ['\\'] => none
  | '\\' :: c :: cs => (pairValue? c).bind fun d => (unescapeChars cs).map (d :: ·)
  | '$' :: '$' :: '{' :: cs => (unescapeChars cs).map ('$' :: '{' :: ·)
  | c :: cs => (unescapeChars cs).map (c :: ·)

def unescape? (s : String) : Option String := (unescapeChars s.toList).map String.ofList

theorem unescapeChars_cons {c : Char} {cs : List Char} (hc : c ≠ '\\')
    (h : ∀ rest, c = '$' → cs ≠ '$' :: '{' :: rest) :
    unescapeChars (c :: cs) = (unescapeChars cs).map (c :: ·) := by
  rw [unescapeChars.eq_def]
  split <;> simp_all

theorem escapeChars_eq_brace {cs rest : List Char} (h : escapeChars cs = '{' :: rest) :
    ∃ tail, cs = '{' :: tail := by
  fun_induction escapeChars cs <;> simp_all

theorem escapeChars_ne_opening (cs rest : List Char) : escapeChars cs ≠ '$' :: '{' :: rest := by
  intro h
  fun_induction escapeChars cs with
  | case8 c cs _ _ _ _ _ hopening ih =>
    obtain ⟨rfl, hrest⟩ := List.cons.inj h
    obtain ⟨tail, rfl⟩ := escapeChars_eq_brace hrest
    exact hopening tail rfl rfl
  | _ => simp_all

theorem unescapeChars_escapeChars (cs : List Char) :
    unescapeChars (escapeChars cs) = some cs := by
  fun_induction escapeChars cs with
  | case8 c cs hbackslash _ _ _ _ _ ih =>
    rw [unescapeChars_cons hbackslash fun rest _ => escapeChars_ne_opening cs rest, ih]
    rfl
  | _ => simp_all [unescapeChars, pairValue?]

theorem breaks_notMem_escapeChars (cs : List Char) :
    '\n' ∉ escapeChars cs ∧ '\r' ∉ escapeChars cs ∧ '\t' ∉ escapeChars cs := by
  fun_induction escapeChars cs <;> simp_all [eq_comm]

/-- The number of backslashes at the end of some text. -/
def backslashRun (cs : List Char) : Nat := (cs.reverse.takeWhile (· == '\\')).length

theorem backslashRun_append_backslash (cs : List Char) :
    backslashRun (cs ++ ['\\']) = backslashRun cs + 1 := by
  simp [backslashRun]

theorem backslashRun_append_of_ne (cs : List Char) {c : Char} (h : c ≠ '\\') :
    backslashRun (cs ++ [c]) = 0 := by
  simp [backslashRun, h]

/-- Whether every quote in some text, behind an even number of backslashes, has an odd number of them
before it. -/
def QuotesGuarded (cs : List Char) : Prop :=
  ∀ lead before after, backslashRun lead % 2 = 0 → cs = before ++ '"' :: after →
    backslashRun (lead ++ before) % 2 = 1

namespace QuotesGuarded

variable {cs : List Char}

theorem nil : QuotesGuarded [] := by
  intro lead before after _ h
  simp at h

theorem cons (h : QuotesGuarded cs) {c : Char} (hbackslash : c ≠ '\\') (hquote : c ≠ '"') :
    QuotesGuarded (c :: cs) := by
  intro lead before after _ heq
  cases before with
  | nil => exact absurd (List.cons.inj heq).1 hquote
  | cons head rest =>
    obtain ⟨rfl, hrest⟩ := List.cons.inj heq
    have heven : backslashRun (lead ++ [c]) % 2 = 0 := by
      rw [backslashRun_append_of_ne lead hbackslash]
    simpa using h (lead ++ [c]) rest after heven hrest

theorem pair (h : QuotesGuarded cs) (c : Char) : QuotesGuarded ('\\' :: c :: cs) := by
  intro lead before after hlead heq
  have hfirst : backslashRun (lead ++ ['\\']) % 2 = 1 := by
    rw [backslashRun_append_backslash]
    omega
  have heven : backslashRun (lead ++ ['\\'] ++ [c]) % 2 = 0 := by
    by_cases hc : c = '\\'
    · rw [hc, backslashRun_append_backslash]
      omega
    · rw [backslashRun_append_of_ne _ hc]
  cases before with
  | nil => exact absurd (List.cons.inj heq).1 (by decide)
  | cons first behind =>
    obtain ⟨rfl, hbehind⟩ := List.cons.inj heq
    cases behind with
    | nil => exact hfirst
    | cons second rest =>
      obtain ⟨rfl, hrest⟩ := List.cons.inj hbehind
      simpa using h (lead ++ ['\\'] ++ [c]) rest after heven hrest

end QuotesGuarded

theorem quotesGuarded_escapeChars (cs : List Char) : QuotesGuarded (escapeChars cs) := by
  fun_induction escapeChars cs with
  | case1 => exact .nil
  | case2 cs ih => exact ih.pair _
  | case3 cs ih => exact ih.pair _
  | case4 cs ih => exact ih.pair _
  | case5 cs ih => exact ih.pair _
  | case6 cs ih => exact ih.pair _
  | case7 cs ih =>
    exact ((ih.cons (by decide) (by decide)).cons (by decide) (by decide)).cons (by decide) (by decide)
  | case8 c cs hbackslash hquote _ _ _ _ ih => exact ih.cons hbackslash hquote

/-- Parts some text at the quote that closes a literal: the first one that does not belong to a pair.
A literal does not go on behind the end of a line. -/
def splitBody : List Char → Option (List Char × List Char)
  | '"' :: rest => some ([], rest)
  | '\\' :: c :: cs => (splitBody cs).map fun (body, rest) => ('\\' :: c :: body, rest)
  | c :: cs => if c = '\n' then none else (splitBody cs).map fun (body, rest) => (c :: body, rest)
  | [] => none

def takeLiteral? : List Char → Option (List Char × List Char)
  | '"' :: cs => splitBody cs
  | _ => none

theorem splitBody_cons {c : Char} {cs : List Char} (hbackslash : c ≠ '\\') (hquote : c ≠ '"')
    (hbreak : c ≠ '\n') :
    splitBody (c :: cs) = (splitBody cs).map fun (body, rest) => (c :: body, rest) := by
  rw [splitBody.eq_def]
  split <;> simp_all

/-- Escaped text ends where its literal is closed. -/
theorem splitBody_escapeChars (cs rest : List Char) :
    splitBody (escapeChars cs ++ '"' :: rest) = some (escapeChars cs, rest) := by
  fun_induction escapeChars cs with
  | case8 c cs hbackslash hquote hbreak _ _ _ ih =>
    rw [List.cons_append, splitBody_cons hbackslash hquote hbreak, ih]
    rfl
  | _ => simp_all [splitBody]

def readLiteral? (cs : List Char) : Option (String × List Char) := do
  let (body, rest) ← takeLiteral? cs
  let s ← unescapeChars body
  return (String.ofList s, rest)

theorem readLiteral?_quote (s : String) (rest : List Char) :
    readLiteral? ((quote s).toList ++ rest) = some (s, rest) := by
  have htake : takeLiteral? ((quote s).toList ++ rest) = some (escapeChars s.toList, rest) := by
    rw [toList_quote, List.cons_append, List.append_assoc]
    exact splitBody_escapeChars s.toList rest
  simp [readLiteral?, htake, unescapeChars_escapeChars]

/-- Some text with every occurrence of a pattern replaced, from left to right. -/
def replaceAll (pattern replacement : List Char) : List Char → List Char
  | [] => []
  | c :: cs =>
    if pattern.isPrefixOf (c :: cs) then
      replacement ++ replaceAll pattern replacement (cs.drop (pattern.length - 1))
    else c :: replaceAll pattern replacement cs
termination_by cs => cs.length
decreasing_by
  all_goals
    simp only [List.length_cons, List.length_drop]
    omega

theorem replaceAll_cons_of_not {pattern : List Char} {c : Char} {cs : List Char}
    (h : ¬pattern.isPrefixOf (c :: cs)) (replacement : List Char) :
    replaceAll pattern replacement (c :: cs) = c :: replaceAll pattern replacement cs := by
  rw [replaceAll, if_neg h]

theorem replaceAll_single (c : Char) (replacement cs : List Char) :
    replaceAll [c] replacement cs = cs.flatMap fun d => if d = c then replacement else [d] := by
  induction cs with
  | nil => simp [replaceAll]
  | cons d cs ih =>
    by_cases h : d = c
    · simp [replaceAll, h, ih]
    · simp [replaceAll, h, Ne.symm h, ih]

/-- What stands for a character that takes part in no interpolation. -/
def pairOf (c : Char) : List Char :=
  if c = '\\' then ['\\', '\\']
  else if c = '"' then ['\\', '"']
  else if c = '\n' then ['\\', 'n']
  else if c = '\r' then ['\\', 'r']
  else if c = '\t' then ['\\', 't']
  else [c]

/-- The replacements that make up the body of a literal, in their order. -/
def replacements : List (List Char × List Char) :=
  [(['\\'], ['\\', '\\']), (['"'], ['\\', '"']), (['\n'], ['\\', 'n']), (['\r'], ['\\', 'r']),
   (['\t'], ['\\', 't']), (['$', '{'], ['$', '$', '{'])]

def replaceInTurn (steps : List (List Char × List Char)) (cs : List Char) : List Char :=
  steps.foldl (fun text step => replaceAll step.1 step.2 text) cs

theorem replaceInTurn_pairs (cs : List Char) :
    replaceInTurn (replacements.take 5) cs = cs.flatMap pairOf := by
  simp only [replaceInTurn, replacements, List.take, List.foldl_cons, List.foldl_nil,
    replaceAll_single, List.flatMap_assoc]
  apply congrArg (cs.flatMap ·)
  funext c
  unfold pairOf
  split_ifs <;> simp_all

theorem flatMap_pairOf_eq_brace {cs rest : List Char} (h : cs.flatMap pairOf = '{' :: rest) :
    ∃ tail, cs = '{' :: tail := by
  cases cs with
  | nil => simp at h
  | cons c cs =>
    rw [List.flatMap_cons, pairOf] at h
    split_ifs at h <;> simp_all

theorem escapeChars_eq_replaceInTurn (cs : List Char) :
    escapeChars cs = replaceInTurn replacements cs := by
  have hsteps : replaceInTurn replacements cs =
      replaceAll ['$', '{'] ['$', '$', '{'] (cs.flatMap pairOf) := by
    rw [← replaceInTurn_pairs]
    rfl
  rw [hsteps]
  clear hsteps
  fun_induction escapeChars cs with
  | case8 c cs hbackslash hquote hn hr ht hopening ih =>
    have hplain : (c :: cs).flatMap pairOf = c :: cs.flatMap pairOf := by
      rw [List.flatMap_cons, pairOf, if_neg hbackslash, if_neg hquote, if_neg hn, if_neg hr,
        if_neg ht, List.singleton_append]
    have hnot : ¬List.isPrefixOf ['$', '{'] (c :: cs.flatMap pairOf) := by
      intro hprefix
      obtain ⟨rest, hrest⟩ := List.isPrefixOf_iff_prefix.mp hprefix
      obtain ⟨hc, hbrace⟩ := List.cons.inj hrest
      obtain ⟨tail, htail⟩ := flatMap_pairOf_eq_brace hbrace.symm
      exact hopening tail hc.symm htail
    rw [hplain, replaceAll_cons_of_not hnot, ih]
  | _ => simp_all [pairOf, replaceAll]

/-- The literal of a string is the outcome of the six replacements, holds nothing that ends a line,
and ends where it should; read from left to right, its body gives the string back. -/
theorem quote_reads_back (s : String) :
    (escape s).toList = replaceInTurn replacements s.toList ∧
      unescape? (escape s) = some s ∧
      ('\n' ∉ (escape s).toList ∧ '\r' ∉ (escape s).toList ∧ '\t' ∉ (escape s).toList) ∧
      (∀ before after, (escape s).toList = before ++ '"' :: after →
        backslashRun before % 2 = 1) ∧
      takeLiteral? (quote s).toList = some ((escape s).toList, []) := by
  rw [unescape?, toList_escape, toList_quote]
  refine ⟨escapeChars_eq_replaceInTurn _, ?_, breaks_notMem_escapeChars _, ?_,
    splitBody_escapeChars _ []⟩
  · rw [unescapeChars_escapeChars, Option.map_some, String.ofList_toList]
  · intro before after h
    exact quotesGuarded_escapeChars s.toList [] before after rfl h

end Groundplan.Text
