import Groundplan.Naming.Constraints
import Mathlib.Data.List.Basic

/-!
# Expansion of templates

A template is read from left to right: where a token starts it is taken whole, and any other character
stands for itself. Which tokens there are is settled by the template alone, before any of them gets a
value, so nothing that a value brings in is ever taken for a token. A template may be cut in two
wherever the cut goes through none of its tokens.
-/

namespace Groundplan

namespace Text

def isTokenPart (c : Char) : Bool := isWordStart c || isDigit c

/-- Whether some text can stand between the braces of a token: an identifier. -/
def isTokenName : List Char → Bool
  | [] => false
  | c :: cs => isWordStart c && cs.all isTokenPart

theorem isTokenPart_of_mem {name : List Char} (h : isTokenName name = true) {c : Char}
    (hc : c ∈ name) : isTokenPart c = true := by
  cases name with
  | nil => cases hc
  | cons first rest =>
    obtain ⟨hfirst, hrest⟩ := (Bool.and_eq_true _ _).mp h
    rcases List.mem_cons.mp hc with rfl | hc
    · rw [isTokenPart, hfirst, Bool.true_or]
    · exact List.all_eq_true.mp hrest c hc

theorem ne_brace_of_isTokenPart {c : Char} (h : isTokenPart c = true) : c ≠ '{' ∧ c ≠ '}' := by
  constructor <;> rintro rfl <;> exact absurd h (by decide)

theorem isTokenName_of_append {first rest : List Char} (h : isTokenName (first ++ rest) = true)
    (hne : first ≠ []) : isTokenName first = true := by
  cases first with
  | nil => exact absurd rfl hne
  | cons c cs =>
    rw [List.cons_append, isTokenName, List.all_append] at h
    obtain ⟨hc, hall⟩ := (Bool.and_eq_true _ _).mp h
    exact (Bool.and_eq_true _ _).mpr ⟨hc, ((Bool.and_eq_true _ _).mp hall).1⟩

end Text

open Text

/-- Whether a token stands at the beginning of some text. -/
def StartsWithToken (cs : List Char) : Prop :=
  ∃ name rest, isTokenName name = true ∧ cs = '{' :: (name ++ '}' :: rest)

/-- How a text is split into tokens and characters that stand for themselves: the leftmost token is
taken first, and the split goes on behind it. -/
inductive Splits : List Char → List TemplatePiece → Prop where
  | nil : Splits [] []
  | token {name rest : List Char} {pieces : List TemplatePiece} (hname : isTokenName name = true)
      (hrest : Splits rest pieces) : Splits ('{' :: (name ++ '}' :: rest)) (.token name :: pieces)
  | literal {c : Char} {rest : List Char} {pieces : List TemplatePiece}
      (hnone : ¬StartsWithToken (c :: rest)) (hrest : Splits rest pieces) :
      Splits (c :: rest) (.literal [c] :: pieces)

theorem StartsWithToken.append {cs : List Char} (h : StartsWithToken cs) (more : List Char) :
    StartsWithToken (cs ++ more) := by
  obtain ⟨name, rest, hname, rfl⟩ := h
  exact ⟨name, rest ++ more, hname, by simp⟩

theorem not_startsWithToken_of_ne {c : Char} (h : c ≠ '{') (cs : List Char) :
    ¬StartsWithToken (c :: cs) := by
  rintro ⟨_, _, _, heq⟩
  exact h (List.cons.inj heq).1

theorem eq_of_token_eq {name other rest tail : List Char} (hname : isTokenName name = true)
    (hother : isTokenName other = true) (h : name ++ '}' :: rest = other ++ '}' :: tail) :
    name = other ∧ rest = tail := by
  have hbefore : ∀ {cs : List Char}, isTokenName cs = true → ∀ behind : List Char,
      (cs ++ '}' :: behind).takeWhile (· != '}') = cs := by
    intro cs hcs behind
    rw [List.takeWhile_append_of_pos fun c hc => by
      simpa using (ne_brace_of_isTokenPart (isTokenPart_of_mem hcs hc)).2]
    simp
  have hnames : name = other := by rw [← hbefore hname rest, h, hbefore hother]
  subst hnames
  exact ⟨rfl, (List.cons.inj (List.append_cancel_left h)).2⟩

namespace Splits

theorem unique {cs : List Char} {pieces others : List TemplatePiece} (h : Splits cs pieces)
    (hother : Splits cs others) : pieces = others := by
  induction h generalizing others with
  | nil =>
    cases hother
    rfl
  | @token name rest pieces hname _ ih =>
    generalize htext : '{' :: (name ++ '}' :: rest) = text at hother
    cases hother with
    | nil => cases htext
    | token hother hrest =>
      obtain ⟨rfl, rfl⟩ := eq_of_token_eq hname hother (List.cons.inj htext).2
      rw [ih hrest]
    | literal hnone _ => exact absurd ⟨name, rest, hname, htext.symm⟩ hnone
  | @literal c rest pieces hnone _ ih =>
    generalize htext : c :: rest = text at hother
    cases hother with
    | nil => cases htext
    | token hname _ => exact absurd ⟨_, _, hname, htext⟩ hnone
    | literal _ hrest =>
      obtain ⟨rfl, rfl⟩ := List.cons.inj htext
      rw [ih hrest]

theorem flatMap_source {cs : List Char} {pieces : List TemplatePiece} (h : Splits cs pieces) :
    pieces.flatMap (·.source) = cs := by
  induction h with
  | nil => rfl
  | token _ _ ih => simp [ih]
  | literal _ _ ih => simp [ih]

theorem append_plain {text : List Char} (htext : ∀ c ∈ text, c ≠ '{') {rest : List Char}
    {pieces : List TemplatePiece} (h : Splits rest pieces) :
    Splits (text ++ rest) (text.map (.literal [·]) ++ pieces) := by
  induction text with
  | nil => exact h
  | cons c text ih =>
    obtain ⟨hc, htext⟩ := List.forall_mem_cons.mp htext
    exact .literal (not_startsWithToken_of_ne hc _) (ih htext)

end Splits

/-- The pieces with every literal taken apart into its characters. -/
def TemplatePiece.characters : TemplatePiece → List TemplatePiece
  | .literal text => text.map (.literal [·])
  | .token name => [.token name]

/-- Whether what has been read since an opening brace may still become the name of a token. -/
def MayOpen (reversed : List Char) : Prop := reversed = [] ∨ isTokenName reversed.reverse = true

theorem MayOpen.ne_brace {reversed : List Char} (h : MayOpen reversed) {c : Char}
    (hc : c ∈ reversed.reverse) : c ≠ '{' ∧ c ≠ '}' := by
  rcases h with rfl | h
  · cases hc
  · exact ne_brace_of_isTokenPart (isTokenPart_of_mem h hc)

theorem MayOpen.isTokenName_snoc {reversed : List Char} (h : MayOpen reversed) (c : Char) :
    isTokenName (reversed.reverse ++ [c]) = extendsToken reversed c := by
  rcases h with rfl | h
  · simp [isTokenName, extendsToken, isWordStart]
  · cases hname : reversed.reverse with
    | nil =>
      rw [hname] at h
      cases h
    | cons first rest =>
      have hne : reversed.isEmpty = false := by
        rw [← Bool.not_eq_true, List.isEmpty_iff, ← List.reverse_eq_nil_iff, hname]
        exact List.cons_ne_nil _ _
      rw [hname] at h
      obtain ⟨hfirst, hrest⟩ := (Bool.and_eq_true _ _).mp h
      rw [List.cons_append, isTokenName, List.all_append, hfirst, hrest, extendsToken, hne]
      simp [isTokenPart, isWordStart]

/-- An opening brace opens no token if reading stops before a closing brace behind some name. -/
theorem MayOpen.not_startsWithToken {reversed tail : List Char} (h : MayOpen reversed)
    (htail : ∀ c cs, tail = c :: cs → extendsToken reversed c = false ∧
      ¬(c = '}' ∧ reversed ≠ [])) :
    ¬StartsWithToken ('{' :: (reversed.reverse ++ tail)) := by
  rintro ⟨name, rest, hname, heq⟩
  have hends : reversed.reverse = name → tail ≠ '}' :: rest := by
    rintro rfl rfl
    refine (htail '}' rest rfl).2 ⟨rfl, ?_⟩
    rintro rfl
    cases hname
  rcases List.append_eq_append_iff.mp (List.cons.inj heq).2 with
    ⟨more, hmore, htext⟩ | ⟨more, hmore, htext⟩
  · cases more with
    | nil => exact hends (by rw [hmore, List.append_nil]) htext
    | cons c more =>
      rw [hmore, ← List.singleton_append, ← List.append_assoc] at hname
      have hextends := isTokenName_of_append hname (by simp)
      rw [h.isTokenName_snoc, (htail c _ htext).1] at hextends
      cases hextends
  · cases more with
    | nil => exact hends (by rw [hmore, List.append_nil]) htext.symm
    | cons c more =>
      obtain ⟨rfl, _⟩ := List.cons.inj htext
      exact (h.ne_brace (by rw [hmore]; simp)).2 rfl

theorem MayOpen.splits {reversed tail : List Char} (h : MayOpen reversed)
    (hnone : ¬StartsWithToken ('{' :: (reversed.reverse ++ tail))) {pieces : List TemplatePiece}
    (hpieces : Splits tail pieces) :
    Splits ('{' :: reversed.reverse ++ tail)
      ((TemplatePiece.literal ('{' :: reversed.reverse)).characters ++ pieces) :=
  .literal hnone (.append_plain (fun _ hc => (h.ne_brace hc).1) hpieces)

/-- The pieces of a template, down to their characters, are its tokens and the characters that stand
for themselves. -/
theorem splits_templatePieces (opened : Option (List Char))
    (hopened : ∀ reversed, opened = some reversed → MayOpen reversed) (cs : List Char) :
    Splits ((opened.elim [] fun reversed => '{' :: reversed.reverse) ++ cs)
      ((templatePieces opened cs).flatMap (·.characters)) := by
  have hnil : ∀ reversed, some [] = some reversed → MayOpen reversed := by
    rintro _ ⟨⟩
    exact .inl rfl
  induction cs generalizing opened with
  | nil =>
    cases opened with
    | none => exact .nil
    | some reversed =>
      have h := hopened reversed rfl
      exact h.splits (h.not_startsWithToken fun _ _ heq => by cases heq) .nil
  | cons c cs ih =>
    cases opened with
    | none =>
      have hrest := ih none nofun
      rw [templatePieces]
      split
      · rename_i hbrace
        exact hbrace ▸ ih (some []) hnil
      · rename_i hbrace
        exact .literal (not_startsWithToken_of_ne hbrace cs) hrest
    | some reversed =>
      have h := hopened reversed rfl
      rw [templatePieces]
      split
      · rename_i hextends
        have hmore : MayOpen (c :: reversed) :=
          .inr (by rw [List.reverse_cons, h.isTokenName_snoc, hextends])
        have hread := ih (some (c :: reversed)) (by rintro _ ⟨⟩; exact hmore)
        simpa using hread
      · rename_i hextends
        split
        · rename_i hcloses
          obtain ⟨rfl, hne⟩ := hcloses
          exact .token (h.resolve_left hne) (ih none nofun)
        · rename_i hcloses
          have hnone : ¬StartsWithToken ('{' :: (reversed.reverse ++ c :: cs)) := by
            apply h.not_startsWithToken
            intro other rest hother
            obtain ⟨rfl, rfl⟩ := List.cons.inj hother
            exact ⟨by simpa using hextends, hcloses⟩
          split
          · rename_i hbrace
            subst hbrace
            exact h.splits hnone (ih (some []) hnil)
          · rename_i hbrace
            have hplain : ∀ other ∈ reversed.reverse ++ [c], other ≠ '{' := by
              intro other hother
              rcases List.mem_append.mp hother with hother | hother
              · exact (h.ne_brace hother).1
              · exact List.mem_singleton.mp hother ▸ hbrace
            have hread := Splits.append_plain hplain (ih none nofun)
            rw [List.append_assoc] at hread
            exact .literal hnone hread

/-- Whether a place in a text lies inside one of the tokens of its split. -/
def InsideToken (pieces : List TemplatePiece) (place : Nat) : Prop :=
  ∃ before name after, pieces = before ++ .token name :: after ∧
    (before.flatMap (·.source)).length < place ∧
    place < (before.flatMap (·.source)).length + (TemplatePiece.token name).source.length

theorem not_insideToken_nil (place : Nat) : ¬InsideToken [] place := by
  rintro ⟨before, _, _, heq, _⟩
  exact absurd heq.symm (List.append_ne_nil_of_right_ne_nil before (List.cons_ne_nil _ _))

theorem insideToken_cons_iff {piece : TemplatePiece} {pieces : List TemplatePiece} {place : Nat} :
    InsideToken (piece :: pieces) place ↔
      ((∃ name, piece = .token name) ∧ 0 < place ∧ place < piece.source.length) ∨
        (piece.source.length ≤ place ∧ InsideToken pieces (place - piece.source.length)) := by
  constructor
  · rintro ⟨before, name, after, heq, hlow, hhigh⟩
    cases before with
    | nil =>
      obtain ⟨rfl, rfl⟩ := List.cons.inj heq
      exact .inl ⟨⟨name, rfl⟩, hlow, by simpa using hhigh⟩
    | cons first before =>
      obtain ⟨rfl, rfl⟩ := List.cons.inj heq
      rw [List.flatMap_cons, List.length_append] at hlow hhigh
      exact .inr ⟨by omega, before, name, after, rfl, by omega, by omega⟩
  · rintro (⟨⟨name, rfl⟩, hlow, hhigh⟩ | ⟨hle, before, name, after, rfl, hlow, hhigh⟩)
    · exact ⟨[], name, pieces, rfl, hlow, by simpa using hhigh⟩
    · refine ⟨piece :: before, name, after, rfl, ?_, ?_⟩
      · rw [List.flatMap_cons, List.length_append]
        omega
      · rw [List.flatMap_cons, List.length_append]
        omega

/-- A cut that goes through no token cuts the split in two. -/
theorem Splits.exists_append {first second : List Char} {pieces : List TemplatePiece}
    (h : Splits (first ++ second) pieces) (hcut : ¬InsideToken pieces first.length) :
    ∃ front back, pieces = front ++ back ∧ Splits first front ∧ Splits second back := by
  generalize htext : first ++ second = text at h
  induction h generalizing first with
  | nil =>
    obtain ⟨rfl, rfl⟩ := List.append_eq_nil_iff.mp htext
    exact ⟨[], [], rfl, .nil, .nil⟩
  | @token name rest pieces hname hrest ih =>
    rcases List.eq_nil_or_concat first with rfl | ⟨_, _, hfirst⟩
    · exact ⟨[], _, rfl, .nil, by rw [← List.nil_append second, htext]; exact .token hname hrest⟩
    have hbehind : (TemplatePiece.token name).source.length ≤ first.length := by
      have hpositive : 0 < first.length := by simp [hfirst]
      exact Nat.le_of_not_lt fun hlt =>
        hcut (insideToken_cons_iff.mpr (.inl ⟨⟨name, rfl⟩, hpositive, hlt⟩))
    have hsource : first ++ second = (TemplatePiece.token name).source ++ rest := by
      rw [htext]
      simp
    obtain ⟨more, rfl, rfl⟩ : ∃ more, first = (TemplatePiece.token name).source ++ more ∧
        rest = more ++ second := by
      rcases List.append_eq_append_iff.mp hsource with ⟨more, hmore, hsecond⟩ | h
      · have hnil : more = [] := by
          rw [hmore, List.length_append] at hbehind
          exact List.eq_nil_of_length_eq_zero (by omega)
        subst hnil
        exact ⟨[], by rw [hmore]; simp, hsecond.symm⟩
      · exact h
    have hinner : ¬InsideToken pieces more.length := by
      intro hinside
      refine hcut (insideToken_cons_iff.mpr (.inr ⟨hbehind, ?_⟩))
      rwa [List.length_append, Nat.add_sub_cancel_left]
    obtain ⟨front, back, rfl, hfront, hback⟩ := ih hinner rfl
    exact ⟨_ :: front, back, rfl, by simpa using Splits.token hname hfront, hback⟩
  | @literal c rest pieces hnone hrest ih =>
    cases first with
    | nil =>
      exact ⟨[], _, rfl, .nil, by rw [← List.nil_append second, htext]; exact .literal hnone hrest⟩
    | cons head first =>
      obtain ⟨rfl, rfl⟩ := List.cons.inj htext
      have hinner : ¬InsideToken pieces first.length := fun hinside =>
        hcut (insideToken_cons_iff.mpr (.inr ⟨by simp, by simpa using hinside⟩))
      obtain ⟨front, back, rfl, hfront, hback⟩ := ih hinner rfl
      exact ⟨_ :: front, back, rfl, .literal (mt (·.append second) hnone) hfront, hback⟩

namespace Naming

/-- What the tokens of a template stand for: the name, the fields that are present, and themselves. -/
structure Fills (n : Naming) (name : String) (fill : TemplatePiece → List Char) : Prop where
  literal : ∀ text, fill (.literal text) = text
  name : fill (.token "name".toList) = name.toList
  env : fill (.token "env".toList) = (n.env.getD "\x7benv\x7d").toList
  region : fill (.token "region".toList) = (n.region.getD "\x7bregion\x7d").toList
  org : fill (.token "org".toList) = (n.org.getD "\x7borg\x7d").toList
  other : ∀ token, token ∉ ["name", "env", "region", "org"].map String.toList →
    fill (.token token) = '{' :: (token ++ ['}'])

theorem fills_expandPiece (n : Naming) (name : String) : n.Fills name (n.expandPiece name) where
  literal _ := rfl
  name := rfl
  env := by
    rw [expandPiece, show n.tokenValue? name "env".toList = n.env from rfl]
    cases n.env <;> rfl
  region := by
    rw [expandPiece, show n.tokenValue? name "region".toList = n.region from rfl]
    cases n.region <;> rfl
  org := by
    rw [expandPiece, show n.tokenValue? name "org".toList = n.org from rfl]
    cases n.org <;> rfl
  other token htoken := by
    simp only [List.map_cons, List.map_nil, List.mem_cons, List.not_mem_nil, or_false,
      not_or] at htoken
    obtain ⟨hname, henv, hregion, horg⟩ := htoken
    rw [expandPiece, tokenValue?, if_neg hname, if_neg henv, if_neg hregion, if_neg horg]
    rfl

theorem flatMap_characters (n : Naming) (name : String) (pieces : List TemplatePiece) :
    (pieces.flatMap (·.characters)).flatMap (n.expandPiece name) =
      pieces.flatMap (n.expandPiece name) := by
  rw [List.flatMap_assoc]
  refine List.flatMap_congr fun piece _ => ?_
  cases piece with
  | literal text =>
    rw [TemplatePiece.characters, List.flatMap_map]
    exact List.flatMap_singleton' text
  | token token => exact List.flatMap_singleton _ _

/-- What a template becomes is what the pieces of its split do. -/
theorem toList_resolve {n : Naming} (henabled : n.enabled = true) {pieces : List TemplatePiece}
    (h : Splits n.template.toList pieces) (name : String) :
    (n.resolve none name).toList = pieces.flatMap (n.expandPiece name) := by
  have hpieces := h.unique (splits_templatePieces none nofun n.template.toList)
  rw [resolve, if_pos henabled, hpieces, flatMap_characters]
  exact String.toList_ofList

/-- A template that is cut beside its tokens may be filled in part by part. -/
theorem resolve_append {n : Naming} (henabled : n.enabled = true) {first second : String}
    {pieces : List TemplatePiece} (h : Splits (first ++ second).toList pieces)
    (hcut : ¬InsideToken pieces first.length) (name : String) :
    { n with template := first ++ second }.resolve none name =
      { n with template := first }.resolve none name ++
        { n with template := second }.resolve none name := by
  have hwhole := toList_resolve (n := { n with template := first ++ second }) henabled h name
  rw [String.toList_append] at h
  rw [← String.length_toList] at hcut
  obtain ⟨front, back, rfl, hfront, hback⟩ := h.exists_append hcut
  apply String.toList_injective
  rw [hwhole, String.toList_append, List.flatMap_append,
    toList_resolve (n := { n with template := first }) henabled hfront,
    toList_resolve (n := { n with template := second }) henabled hback]
  rfl

end Naming

/-- A template is split once, whatever its tokens stand for. A name is what the pieces of that split
become one by one; and a template that is cut beside its tokens may be filled in part by part. -/
theorem resolve_fills_template_once (template : String) : ∃ pieces : List TemplatePiece,
    (∀ others, Splits template.toList others ↔ others = pieces) ∧
    pieces.flatMap (·.source) = template.toList ∧
    (∀ (n : Naming) (name : String), n.enabled = true → n.template = template →
      ∃ fill, n.Fills name fill ∧ (n.resolve none name).toList = pieces.flatMap fill) ∧
    ∀ first second, template = first ++ second → ¬InsideToken pieces first.length →
      ∀ (n : Naming) (name : String), n.enabled = true → n.template = template →
        n.resolve none name = { n with template := first }.resolve none name ++
          { n with template := second }.resolve none name := by
  have hsplits : Splits template.toList
      ((templatePieces none template.toList).flatMap (·.characters)) :=
    splits_templatePieces none nofun template.toList
  refine ⟨_, fun others => ⟨fun h => h.unique hsplits, fun h => h ▸ hsplits⟩,
    hsplits.flatMap_source, ?_, ?_⟩
  · rintro n name henabled rfl
    exact ⟨n.expandPiece name, n.fills_expandPiece name, Naming.toList_resolve henabled hsplits name⟩
  · rintro first second rfl hcut n name henabled htemplate
    have hsame : n = { n with template := first ++ second } := by rw [← htemplate]
    rw [hsame]
    exact Naming.resolve_append henabled hsplits hcut name

/-- A convention with a brace too many, and with a field that looks like a token. -/
def bracedNaming : Naming where
  enabled := true
  template := "\x7b\x7benv\x7d-\x7bname\x7d"
  env := some "\x7bname\x7d"
  org := some "acme"

theorem resolve_fills_template_once_braced : ∃ pieces,
    Splits bracedNaming.template.toList pieces ∧
    pieces = [.literal ['{'], .token "env".toList, .literal ['-'], .token "name".toList] ∧
    bracedNaming.resolve none "\x7borg\x7d" = "\x7b\x7bname\x7d-\x7borg\x7d" ∧
    ¬InsideToken pieces "\x7b\x7benv\x7d".length ∧
    bracedNaming.resolve none "\x7borg\x7d" =
      { bracedNaming with template := "\x7b\x7benv\x7d" }.resolve none "\x7borg\x7d" ++
        { bracedNaming with template := "-\x7bname\x7d" }.resolve none "\x7borg\x7d" := by
  obtain ⟨pieces, hsplits, -, hfills, hparts⟩ := resolve_fills_template_once bracedNaming.template
  have hpieces : pieces =
      [.literal ['{'], .token "env".toList, .literal ['-'], .token "name".toList] :=
    ((hsplits _).mp (splits_templatePieces none nofun bracedNaming.template.toList)).symm
  have hcut : ¬InsideToken pieces "\x7b\x7benv\x7d".length := by
    show ¬InsideToken pieces 6
    simp [hpieces, insideToken_cons_iff, not_insideToken_nil]
  obtain ⟨fill, hfill, hresolve⟩ := hfills bracedNaming "\x7borg\x7d" rfl rfl
  refine ⟨pieces, (hsplits pieces).mpr rfl, hpieces, ?_, hcut,
    hparts "\x7b\x7benv\x7d" "-\x7bname\x7d" rfl hcut bracedNaming _ rfl rfl⟩
  apply String.toList_injective
  rw [hresolve, hpieces]
  simp only [List.flatMap_cons, List.flatMap_nil, hfill.literal, hfill.env, hfill.name]
  rfl

end Groundplan
