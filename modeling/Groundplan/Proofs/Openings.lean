import Groundplan.Proofs.Literals

/-!
# Openings of templates

In the body of a literal, read from left to right, a doubled sign in front of a brace stands for the
sign and the brace; any other dollar sign in front of a brace opens an interpolation, and any other
percent sign a directive. The body written for a string opens no interpolation, and just the
directives that the string itself opens.
-/

namespace Groundplan.Text

inductive Opening where
  | interpolation
  | directive
deriving DecidableEq

def Opening.sign : Opening → Char
  | .interpolation => '$'
  | .directive => '%'

theorem Opening.sign_ne_brace (o : Opening) : o.sign ≠ '{' := by
  cases o <;> decide

/-- What opens in some text, in order. -/
def openings : List Char → List Opening
  | '$' :: '$' :: '{' :: cs => openings cs
  | '%' :: '%' :: '{' :: cs => openings cs
  | '$' :: '{' :: cs => .interpolation :: openings cs
  | '%' :: '{' :: cs => .directive :: openings cs
  | _ :: cs => openings cs
  | [] => []

/-- Whether a sign in front of a brace stands somewhere in some text, not behind the same sign. -/
def Opens (o : Opening) (cs : List Char) : Prop :=
  ∃ before after, cs = before ++ o.sign :: '{' :: after ∧ before.getLast? ≠ some o.sign

theorem getLast?_ne_of_cons {c d : Char} {cs : List Char} (h : (c :: cs).getLast? ≠ some d) :
    cs.getLast? ≠ some d := by
  cases cs with
  | nil => simp
  | cons => simpa using h

theorem getLast?_cons_ne {c d : Char} {cs : List Char} (hc : c ≠ d) (h : cs.getLast? ≠ some d) :
    (c :: cs).getLast? ≠ some d := by
  cases cs with
  | nil => simpa using hc
  | cons => simpa using h

theorem not_opens_nil (o : Opening) : ¬Opens o [] := by
  rintro ⟨before, after, h, -⟩
  simp at h

theorem opens_cons_iff {o : Opening} {c : Char} {cs : List Char} :
    Opens o (c :: cs) ↔
      (c = o.sign ∧ cs.head? = some '{') ∨
        ∃ before after, cs = before ++ o.sign :: '{' :: after ∧
          (c :: before).getLast? ≠ some o.sign := by
  constructor
  · rintro ⟨before, after, h, hlast⟩
    cases before with
    | nil =>
      obtain ⟨rfl, rfl⟩ := List.cons.inj h
      exact .inl ⟨rfl, rfl⟩
    | cons first before =>
      obtain ⟨rfl, rfl⟩ := List.cons.inj h
      exact .inr ⟨before, after, rfl, hlast⟩
  · rintro (⟨rfl, hbrace⟩ | ⟨before, after, rfl, hlast⟩)
    · obtain ⟨after, rfl⟩ := List.head?_eq_some_iff.mp hbrace
      exact ⟨[], after, rfl, by simp⟩
    · exact ⟨c :: before, after, rfl, hlast⟩

theorem opens_cons_of_not {o : Opening} {c : Char} {cs : List Char}
    (hbrace : c = o.sign → ∀ rest, cs ≠ '{' :: rest)
    (hdoubled : c = o.sign → ∀ rest, cs ≠ o.sign :: '{' :: rest) :
    Opens o (c :: cs) ↔ Opens o cs := by
  rw [opens_cons_iff]
  constructor
  · rintro (⟨hc, h⟩ | ⟨before, after, h, hlast⟩)
    · obtain ⟨rest, hrest⟩ := List.head?_eq_some_iff.mp h
      exact absurd hrest (hbrace hc rest)
    · exact ⟨before, after, h, getLast?_ne_of_cons hlast⟩
  · rintro ⟨before, after, h, hlast⟩
    refine .inr ⟨before, after, h, ?_⟩
    cases before with
    | nil =>
      intro hc
      exact hdoubled (by simpa using hc) after h
    | cons => simpa using hlast

theorem opens_cons_of_ne {o : Opening} {c : Char} (h : c ≠ o.sign) (cs : List Char) :
    Opens o (c :: cs) ↔ Opens o cs :=
  opens_cons_of_not (fun hc => absurd hc h) fun hc => absurd hc h

theorem opens_sign_brace (o : Opening) (cs : List Char) : Opens o (o.sign :: '{' :: cs) :=
  ⟨[], cs, rfl, by simp⟩

theorem opens_doubled (o : Opening) (cs : List Char) :
    Opens o (o.sign :: o.sign :: '{' :: cs) ↔ Opens o cs := by
  constructor
  · rintro ⟨before, after, h, hlast⟩
    match before with
    | [] => simp [o.sign_ne_brace] at h
    | [c] => simp_all
    | [_, _] => simp [o.sign_ne_brace.symm] at h
    | _ :: _ :: c :: before =>
      simp only [List.cons_append, List.cons.injEq] at h
      obtain ⟨-, -, rfl, rfl⟩ := h
      have hbehind := getLast?_ne_of_cons (getLast?_ne_of_cons hlast)
      exact ⟨before, after, rfl, getLast?_ne_of_cons hbehind⟩
  · rintro ⟨before, after, rfl, hlast⟩
    have hbrace := getLast?_cons_ne o.sign_ne_brace.symm hlast
    refine ⟨o.sign :: o.sign :: '{' :: before, after, rfl, ?_⟩
    simpa using hbrace

theorem mem_openings_iff {o : Opening} {cs : List Char} : o ∈ openings cs ↔ Opens o cs := by
  fun_induction openings cs with
  | case1 cs ih =>
    rw [ih]
    cases o with
    | interpolation => exact (opens_doubled .interpolation cs).symm
    | directive =>
      rw [opens_cons_of_ne (by decide), opens_cons_of_ne (by decide), opens_cons_of_ne (by decide)]
  | case2 cs ih =>
    rw [ih]
    cases o with
    | interpolation =>
      rw [opens_cons_of_ne (by decide), opens_cons_of_ne (by decide), opens_cons_of_ne (by decide)]
    | directive => exact (opens_doubled .directive cs).symm
  | case3 cs ih =>
    cases o with
    | interpolation => exact iff_of_true List.mem_cons_self (opens_sign_brace .interpolation cs)
    | directive =>
      rw [opens_cons_of_ne (by decide), opens_cons_of_ne (by decide), ← ih]
      simp
  | case4 cs ih =>
    cases o with
    | interpolation =>
      rw [opens_cons_of_ne (by decide), opens_cons_of_ne (by decide), ← ih]
      simp
    | directive => exact iff_of_true List.mem_cons_self (opens_sign_brace .directive cs)
  | case5 c cs hdollars hpercents hdollar hpercent ih =>
    rw [ih]
    symm
    cases o with
    | interpolation =>
      exact opens_cons_of_not (fun h rest => hdollar rest h) fun h rest => hdollars rest h
    | directive =>
      exact opens_cons_of_not (fun h rest => hpercent rest h) fun h rest => hpercents rest h
  | case6 => exact iff_of_false List.not_mem_nil (not_opens_nil o)

theorem openings_cons {c : Char} {cs : List Char}
    (hdollar : c = '$' → ∀ rest, cs ≠ '{' :: rest ∧ cs ≠ '$' :: '{' :: rest)
    (hpercent : c = '%' → ∀ rest, cs ≠ '{' :: rest ∧ cs ≠ '%' :: '{' :: rest) :
    openings (c :: cs) = openings cs := by
  rw [openings.eq_def]
  split <;> simp_all

theorem openings_cons_of_ne {c : Char} (hdollar : c ≠ '$') (hpercent : c ≠ '%') (cs : List Char) :
    openings (c :: cs) = openings cs :=
  openings_cons (fun h => absurd h hdollar) fun h => absurd h hpercent

theorem openings_pair {c : Char} (hdollar : c ≠ '$') (hpercent : c ≠ '%') (cs : List Char) :
    openings ('\\' :: c :: cs) = openings cs := by
  rw [openings_cons_of_ne (by decide) (by decide), openings_cons_of_ne hdollar hpercent]

theorem escapeChars_brace (cs : List Char) : escapeChars ('{' :: cs) = '{' :: escapeChars cs := by
  simp [escapeChars]

theorem escapeChars_percent_brace (cs : List Char) :
    escapeChars ('%' :: '{' :: cs) = '%' :: '{' :: escapeChars cs := by
  simp [escapeChars]

theorem escapeChars_eq_percent_brace {cs rest : List Char}
    (h : escapeChars cs = '%' :: '{' :: rest) : ∃ tail, cs = '%' :: '{' :: tail := by
  fun_induction escapeChars cs with
  | case8 c cs _ _ _ _ _ _ ih =>
    obtain ⟨rfl, hrest⟩ := List.cons.inj h
    obtain ⟨tail, rfl⟩ := escapeChars_eq_brace hrest
    exact ⟨tail, rfl⟩
  | _ => simp_all

def directives (cs : List Char) : List Opening := (openings cs).filter (· = .directive)

theorem directives_dollar {cs : List Char} (h : ∀ rest, cs ≠ '{' :: rest) :
    directives ('$' :: cs) = directives cs := by
  by_cases hdoubled : ∃ rest, cs = '$' :: '{' :: rest
  · obtain ⟨rest, rfl⟩ := hdoubled
    simp [directives, openings]
  · have hcons : openings ('$' :: cs) = openings cs :=
      openings_cons (fun _ rest => ⟨h rest, fun hrest => hdoubled ⟨rest, hrest⟩⟩) (by simp)
    rw [directives, hcons, directives]

theorem openings_escapeChars_dollar {cs : List Char} (h : ∀ rest, cs ≠ '{' :: rest) :
    openings ('$' :: escapeChars cs) = openings (escapeChars cs) := by
  refine openings_cons (fun _ rest => ⟨fun hbrace => ?_, escapeChars_ne_opening cs rest⟩) (by simp)
  obtain ⟨tail, htail⟩ := escapeChars_eq_brace hbrace
  exact h tail htail

theorem openings_escapeChars_percent {cs : List Char}
    (ih : openings (escapeChars cs) = directives cs) :
    openings ('%' :: escapeChars cs) = directives ('%' :: cs) := by
  by_cases hbrace : ∃ tail, cs = '{' :: tail
  · obtain ⟨tail, rfl⟩ := hbrace
    simpa [escapeChars_brace, openings, directives] using ih
  by_cases hdoubled : ∃ tail, cs = '%' :: '{' :: tail
  · obtain ⟨tail, rfl⟩ := hdoubled
    simpa [escapeChars_percent_brace, openings, directives] using ih
  have hescaped : openings ('%' :: escapeChars cs) = openings (escapeChars cs) :=
    openings_cons (by simp) fun _ rest =>
      ⟨fun h => hbrace (escapeChars_eq_brace h), fun h => hdoubled (escapeChars_eq_percent_brace h)⟩
  have hplain : openings ('%' :: cs) = openings cs :=
    openings_cons (by simp) fun _ rest =>
      ⟨fun h => hbrace ⟨rest, h⟩, fun h => hdoubled ⟨rest, h⟩⟩
  rw [hescaped, ih, directives, directives, hplain]

theorem openings_escapeChars (cs : List Char) : openings (escapeChars cs) = directives cs := by
  fun_induction escapeChars cs with
  | case1 => rfl
  | case7 cs ih => simpa [openings, directives] using ih
  | case8 c cs _ _ _ _ _ hopening ih =>
    by_cases hdollar : c = '$'
    · subst hdollar
      have hbrace : ∀ rest, cs ≠ '{' :: rest := fun rest => hopening rest rfl
      rw [openings_escapeChars_dollar hbrace, directives_dollar hbrace, ih]
    by_cases hpercent : c = '%'
    · subst hpercent
      exact openings_escapeChars_percent ih
    · rw [openings_cons_of_ne hdollar hpercent, ih, directives, directives,
        openings_cons_of_ne hdollar hpercent]
  | _ cs ih =>
    rw [openings_pair (by decide) (by decide), ih, directives, directives,
      openings_cons_of_ne (by decide) (by decide)]

theorem mem_directives_iff {o : Opening} {cs : List Char} :
    o ∈ directives cs ↔ o = .directive ∧ Opens .directive cs := by
  rw [directives, List.mem_filter, mem_openings_iff]
  constructor
  · rintro ⟨hopens, ho⟩
    obtain rfl : o = .directive := by simpa using ho
    exact ⟨rfl, hopens⟩
  · rintro ⟨rfl, hopens⟩
    exact ⟨hopens, by simp⟩

/-- What is written for a string opens no interpolation, and the directives of the string itself: it
opens nothing just if each percent sign in front of a brace, in the string, stands behind another. -/
theorem escape_opens_directives_only (s : String) :
    Opening.interpolation ∉ openings (escape s).toList ∧
      openings (escape s).toList = (openings s.toList).filter (· = .directive) ∧
      (openings (escape s).toList = [] ↔
        ∀ before after, s.toList = before ++ '%' :: '{' :: after → before.getLast? = some '%') := by
  rw [toList_escape, openings_escapeChars]
  refine ⟨?_, rfl, ?_⟩
  · intro h
    exact absurd (mem_directives_iff.mp h).1 (by decide)
  · rw [List.eq_nil_iff_forall_not_mem]
    constructor
    · intro h before after hs
      refine Decidable.byContradiction fun hlast => ?_
      exact h .directive (mem_directives_iff.mpr ⟨rfl, before, after, hs, hlast⟩)
    · rintro h o ho
      obtain ⟨-, before, after, hs, hlast⟩ := mem_directives_iff.mp ho
      exact hlast (h before after hs)

/-- The percent sign of a directive is not doubled. -/
theorem escape_opens_directive : openings (escape "%\x7bif\x7d").toList = [.directive] := by
  decide

end Groundplan.Text
