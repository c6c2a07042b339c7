import Groundplan.Proofs.Reader

/-!
# Configuration text read back

Whatever its strings, keys and labels hold, the text of a value is read back up to its end, at any
depth and before any text that ends a word; so are a body up to its closing brace, and a document.
A number is read as the expression with its text.
-/

namespace Groundplan

open Text

namespace Value

def IsLexical (v : Value) : Prop := ∀ e ∈ v.expressions, isExpressionWord e = true

def AreLexical (items : List Value) : Prop := ∀ e ∈ itemExpressions items, isExpressionWord e = true

def EntriesLexical (entries : List (String × Value)) : Prop :=
  ∀ e ∈ entryExpressions entries, isExpressionWord e = true

theorem areLexical_cons {item : Value} {items : List Value} :
    AreLexical (item :: items) ↔ item.IsLexical ∧ AreLexical items := by
  simp only [AreLexical, itemExpressions, List.forall_mem_append]
  rfl

theorem entriesLexical_cons {key : String} {value : Value} {entries : List (String × Value)} :
    EntriesLexical ((key, value) :: entries) ↔ value.IsLexical ∧ EntriesLexical entries := by
  simp only [EntriesLexical, entryExpressions, List.forall_mem_append]
  rfl

mutual

/-- A value with the text of each number in its place. -/
def spelled : Value → Value
  | .number n => .expression n.text
  | .list items => .list (spelledItems items)
  | .object entries => .object (spelledEntries entries)
  | .string s => .string s
  | .expression e => .expression e
  | .bool b => .bool b

def spelledItems : List Value → List Value
  | [] => []
  | item :: items => item.spelled :: spelledItems items

def spelledEntries : List (String × Value) → List (String × Value)
  | [] => []
  | (key, value) :: entries => (key, value.spelled) :: spelledEntries entries

end

theorem begins_render (depth : Nat) {v : Value} (h : v.IsLexical) :
    Begins (v.render depth).toList := by
  cases v with
  | string s => exact begins_quote s
  | expression e => exact (isWord_of_isExpressionWord (h e (by simp [expressions]))).begins
  | number n => exact n.isNumeral_text.isWord.begins
  | bool b =>
    rw [render]
    exact (isWord_bool b).begins
  | list items =>
    rw [render, String.toList_append, String.toList_append]
    exact ⟨'[', _, rfl, by decide, by decide, by decide⟩
  | object entries =>
    cases entries with
    | nil =>
      rw [render]
      exact ⟨'{', ['}'], rfl, by decide, by decide, by decide⟩
    | cons entry entries =>
      simp only [render, String.toList_append, List.append_assoc]
      exact ⟨'{', _, rfl, by decide, by decide, by decide⟩

theorem readValue_word {word : String} {rest : List Char} {fuel : Nat} (hword : IsWord word.toList)
    (hrest : Stops rest) (hfuel : 0 < fuel) :
    readValue fuel (word.toList ++ rest) = some (wordValue word, rest) := by
  obtain ⟨n, rfl⟩ := Nat.exists_eq_succ_of_ne_zero (Nat.ne_of_gt hfuel)
  obtain ⟨c, cs, hcons⟩ := List.exists_cons_of_ne_nil hword.1
  have hmark : isMark c = false := hword.2 c (hcons ▸ List.mem_cons_self)
  have htake := takeWord?_append hword hrest
  have hne : ∀ mark, isMark mark = true → ∀ more, c :: (cs ++ rest) ≠ mark :: more := by
    intro mark hother more heq
    obtain ⟨rfl, -⟩ := List.cons.inj heq
    rw [hmark] at hother
    cases hother
  rw [hcons, List.cons_append] at htake ⊢
  rw [readValue.eq_5 _ _ (hne '[' rfl) (hne '{' rfl) (hne '"' rfl), htake]
  rfl

def itemsText (depth : Nat) (items : List Value) : List Char :=
  (", ".intercalate (renderItems depth items)).toList

theorem exists_lead_itemsText (depth : Nat) (item : Value) (items : List Value) :
    ∃ lead, AreLayout lead ∧
      itemsText depth (item :: items) = (item.render depth).toList ++ (lead ++ itemsText depth items) ∧
      ∀ rest, Stops (lead ++ (itemsText depth items ++ ']' :: rest)) := by
  cases items with
  | nil =>
    refine ⟨[], areLayout_nil, ?_, fun rest => stops_cons rfl rest⟩
    simp [itemsText, renderItems]
  | cons next items =>
    refine ⟨[',', ' '], by simp [AreLayout, isLayout], ?_, fun rest => stops_cons rfl _⟩
    simp [itemsText, renderItems, String.toList_intercalate]

theorem exists_lead_object (depth : Nat) (entries : List (String × Value)) :
    ∃ lead trail width, AreLayout lead ∧ AreLayout trail ∧
      ((Value.object entries).render depth).toList =
        '{' :: (lead ++ ((renderEntries (depth + 1) width entries).toList ++ (trail ++ ['}']))) := by
  cases entries with
  | nil =>
    refine ⟨[], [], 0, areLayout_nil, areLayout_nil, ?_⟩
    simp [render, renderEntries]
  | cons entry entries =>
    refine ⟨['\n'], (indent depth).toList, columnWidth ((entry :: entries).map (·.1)), areLayout_break,
      areLayout_indent depth, ?_⟩
    simp only [render, String.toList_append, List.append_assoc]
    rfl

mutual

/-- A value is read from its text at any depth, whatever stands behind it. -/
theorem readValue_render (depth : Nat) (v : Value) (h : v.IsLexical) (fuel : Nat) (rest : List Char)
    (hrest : Stops rest) (hfuel : 2 * ((v.render depth).toList ++ rest).length < fuel) :
    readValue fuel ((v.render depth).toList ++ rest) = some (v.spelled, rest) := by
  cases v with
  | string s =>
    obtain ⟨n, rfl⟩ := Nat.exists_eq_succ_of_ne_zero (Nat.ne_zero_of_lt hfuel)
    have hliteral := readLiteral?_quote s rest
    rw [toList_quote, List.cons_append] at hliteral
    rw [render, toList_quote, List.cons_append, readValue, hliteral]
    rfl
  | expression e =>
    have he := h e (by simp [expressions])
    rw [render, readValue_word (isWord_of_isExpressionWord he) hrest (by omega),
      wordValue_of_isExpressionWord he]
    rfl
  | number n =>
    rw [render, readValue_word n.isNumeral_text.isWord hrest (by omega), n.isNumeral_text.wordValue_eq]
    rfl
  | bool b =>
    rw [render, readValue_word (isWord_bool b) hrest (by omega)]
    cases b <;> rfl
  | list items =>
    obtain ⟨n, rfl⟩ := Nat.exists_eq_succ_of_ne_zero (Nat.ne_zero_of_lt hfuel)
    have htext : ((Value.list items).render depth).toList ++ rest =
        '[' :: ([] ++ (itemsText depth items ++ ']' :: rest)) := by
      simp [render, itemsText]
    rw [htext, List.length_cons] at hfuel
    rw [htext, readValue, readList_itemsText depth items h n rest areLayout_nil (by omega)]
    rfl
  | object entries =>
    obtain ⟨n, rfl⟩ := Nat.exists_eq_succ_of_ne_zero (Nat.ne_zero_of_lt hfuel)
    obtain ⟨lead, trail, width, hlead, htrail, htext⟩ := exists_lead_object depth entries
    rw [htext, List.cons_append, List.append_assoc, List.append_assoc, List.append_assoc,
      List.singleton_append, List.length_cons] at hfuel
    rw [htext, List.cons_append, List.append_assoc, List.append_assoc, List.append_assoc,
      List.singleton_append, readValue,
      readEntries_renderEntries (depth + 1) width entries h n rest hlead htrail (by omega)]
    rfl

theorem readList_itemsText (depth : Nat) (items : List Value) (h : AreLexical items) (fuel : Nat)
    (rest : List Char) {lead : List Char} (hlead : AreLayout lead)
    (hfuel : 2 * (lead ++ (itemsText depth items ++ ']' :: rest)).length + 1 < fuel) :
    readList fuel (lead ++ (itemsText depth items ++ ']' :: rest)) = some (spelledItems items, rest) := by
  obtain ⟨n, rfl⟩ := Nat.exists_eq_succ_of_ne_zero (Nat.ne_zero_of_lt hfuel)
  cases items with
  | nil =>
    have htext : itemsText depth [] = [] := rfl
    rw [htext, List.nil_append, readList, after?_append hlead rfl]
    rfl
  | cons item items =>
    obtain ⟨between, hbetween, htext, hstops⟩ := exists_lead_itemsText depth item items
    obtain ⟨hitem, hitems⟩ := areLexical_cons.mp h
    have hbegins := begins_render depth hitem
    have hpos := hbegins.length_pos
    have htail := hbegins.append (between ++ (itemsText depth items ++ ']' :: rest))
    rw [htext, List.append_assoc, List.append_assoc] at hfuel ⊢
    rw [List.length_append, List.length_append] at hfuel
    have hread := readValue_render depth item hitem n (between ++ (itemsText depth items ++ ']' :: rest))
      (hstops rest) (by rw [List.length_append]; omega)
    have hreadItems := readList_itemsText depth items hitems n rest hbetween (by omega)
    simp only [readList, (htail.after?_eq_none hlead).1, htail.skipLayout hlead, hread, hreadItems,
      Option.bind_eq_bind, Option.bind_some]
    rfl

theorem readEntries_renderEntries (depth width : Nat) (entries : List (String × Value))
    (h : EntriesLexical entries) (fuel : Nat) (rest : List Char) {lead trail : List Char}
    (hlead : AreLayout lead) (htrail : AreLayout trail)
    (hfuel : 2 * (lead ++ ((renderEntries depth width entries).toList ++
      (trail ++ '}' :: rest))).length + 1 < fuel) :
    readEntries fuel (lead ++ ((renderEntries depth width entries).toList ++ (trail ++ '}' :: rest))) =
      some (spelledEntries entries, rest) := by
  obtain ⟨n, rfl⟩ := Nat.exists_eq_succ_of_ne_zero (Nat.ne_zero_of_lt hfuel)
  cases entries with
  | nil =>
    rw [renderEntries, String.toList_empty, List.nil_append, ← List.append_assoc, readEntries,
      after?_append (hlead.append htrail) rfl]
    rfl
  | cons entry entries =>
    obtain ⟨key, value⟩ := entry
    obtain ⟨hvalue, hentries⟩ := entriesLexical_cons.mp h
    have hline := length_renderLine depth width key (value.render depth)
    rw [renderEntries, String.toList_append, List.append_assoc] at hfuel ⊢
    obtain ⟨hnone, after, tail, hname, hequals, htail⟩ := exists_rest_renderLine depth width key
      (begins_render depth hvalue) hlead
      ((renderEntries depth width entries).toList ++ (trail ++ '}' :: rest))
    rw [List.length_append, List.length_append] at hfuel
    have hread := readValue_render depth value hvalue n _ (stops_break
      ((renderEntries depth width entries).toList ++ (trail ++ '}' :: rest))) (by
        rw [List.length_append, List.length_append, List.length_singleton]
        omega)
    have hreadEntries := readEntries_renderEntries depth width entries hentries n rest areLayout_break
      htrail (by rw [List.length_append, List.length_singleton]; omega)
    simp only [readEntries, hnone, hname, hequals, htail, hread, hreadEntries, Option.bind_eq_bind,
      Option.bind_some]
    rfl

end

end Value

mutual

def Block.types : Block → List String
  | ⟨type, _, body⟩ => type :: bodyTypes body

def bodyTypes : List BodyItem → List String
  | [] => []
  | .setting _ _ :: rest => bodyTypes rest
  | .block content :: rest => content.types ++ bodyTypes rest

end

mutual

def Block.spelled : Block → Block
  | ⟨type, labels, body⟩ => ⟨type, labels, spelledBody body⟩

def spelledBody : List BodyItem → List BodyItem
  | [] => []
  | .setting key value :: rest => .setting key value.spelled :: spelledBody rest
  | .block content :: rest => .block content.spelled :: spelledBody rest

end

/-- Whether every type at any depth is a bare word, and every expression in an attribute a single
word. -/
structure AreLexical (types : List String) (attributes : List (String × Value)) : Prop where
  types : ∀ type ∈ types, isBareWord type = true
  values : ∀ a ∈ attributes, a.2.IsLexical

def Block.IsLexical (b : Block) : Prop := AreLexical b.types b.attributes

theorem AreLexical.append {types more : List String} {attributes others : List (String × Value)} :
    AreLexical (types ++ more) (attributes ++ others) ↔
      AreLexical types attributes ∧ AreLexical more others := by
  constructor
  · rintro ⟨htypes, hvalues⟩
    rw [List.forall_mem_append] at htypes hvalues
    exact ⟨⟨htypes.1, hvalues.1⟩, ⟨htypes.2, hvalues.2⟩⟩
  · rintro ⟨⟨htypes, hvalues⟩, ⟨hmore, hothers⟩⟩
    exact ⟨List.forall_mem_append.mpr ⟨htypes, hmore⟩, List.forall_mem_append.mpr ⟨hvalues, hothers⟩⟩

theorem AreLexical.setting {types : List String} {key : String} {value : Value}
    {attributes : List (String × Value)} (h : AreLexical types ((key, value) :: attributes)) :
    value.IsLexical ∧ AreLexical types attributes :=
  ⟨h.values (key, value) List.mem_cons_self, h.types, fun a ha => h.values a (List.mem_cons_of_mem _ ha)⟩

namespace Block.IsLexical

variable {type : String} {labels : List String} {body : List BodyItem}

theorem isWord (h : Block.IsLexical ⟨type, labels, body⟩) : IsWord type.toList :=
  isWord_of_isBareWord (h.types type List.mem_cons_self)

theorem contents (h : Block.IsLexical ⟨type, labels, body⟩) :
    AreLexical (bodyTypes body) (bodyAttributes body) :=
  ⟨fun type htype => h.types type (List.mem_cons_of_mem _ htype), h.values⟩

end Block.IsLexical

/-- The labels of a heading and the brace behind them. -/
def headingText (labels : List String) (rest : List Char) : List Char :=
  (String.join (labels.map fun label => " " ++ quote label)).toList ++ ' ' :: '{' :: rest

theorem headingText_cons (label : String) (labels : List String) (rest : List Char) :
    headingText (label :: labels) rest =
      [' '] ++ ((quote label).toList ++ headingText labels rest) := by
  simp [headingText, String.toList_join]

theorem after?_headingText_cons {mark : Char} (hmark : '"' ≠ mark) (label : String)
    (labels : List String) (rest : List Char) :
    after? mark (headingText (label :: labels) rest) = none := by
  rw [headingText_cons, toList_quote, List.cons_append]
  exact after?_eq_none areLayout_space rfl hmark _

theorem after?_headingText (labels : List String) (rest : List Char) :
    after? '=' (headingText labels rest) = none := by
  cases labels with
  | nil => exact after?_eq_none areLayout_space rfl (by decide) rest
  | cons label labels => exact after?_headingText_cons (by decide) label labels rest

theorem stops_headingText (labels : List String) (rest : List Char) :
    Stops (headingText labels rest) := by
  cases labels with
  | nil => exact stops_cons rfl _
  | cons label labels =>
    rw [headingText_cons]
    exact stops_cons rfl _

theorem length_headingText (labels : List String) (rest : List Char) :
    rest.length + 1 < (headingText labels rest).length := by
  rw [headingText, List.length_append, List.length_cons, List.length_cons]
  omega

theorem readLabels_headingText (labels : List String) (rest : List Char) (fuel : Nat)
    (hfuel : (headingText labels rest).length < fuel) :
    readLabels fuel (headingText labels rest) = some (labels, rest) := by
  induction labels generalizing fuel with
  | nil =>
    obtain ⟨n, rfl⟩ := Nat.exists_eq_succ_of_ne_zero (Nat.ne_zero_of_lt hfuel)
    have hclose : after? '{' (headingText [] rest) = some rest := after?_append areLayout_space rfl rest
    rw [readLabels, hclose]
  | cons label labels ih =>
    obtain ⟨n, rfl⟩ := Nat.exists_eq_succ_of_ne_zero (Nat.ne_zero_of_lt hfuel)
    have hopen : after? '{' (headingText (label :: labels) rest) = none :=
      after?_headingText_cons (by decide) label labels rest
    have hskip := ((begins_quote label).append (headingText labels rest)).skipLayout areLayout_space
    rw [headingText_cons] at hfuel hopen ⊢
    rw [List.length_append, List.length_append, List.length_singleton] at hfuel
    have hlabels := ih n (by omega)
    simp only [readLabels, hopen, hskip, readLiteral?_quote, hlabels, Option.bind_eq_bind,
      Option.bind_some]
    rfl

/-- The text of a block is read as its type, its labels and what is inside its braces. -/
theorem exists_inside_renderAt (depth : Nat) {type : String} (hword : IsWord type.toList)
    (labels : List String) (body : List BodyItem) (rest : List Char) {lead text : List Char}
    (hlead : AreLayout lead)
    (htext : text = lead ++ (((Block.mk type labels body).renderAt depth).toList ++ rest)) :
    ∃ inside first last, AreLayout first ∧ AreLayout last ∧
      inside = first ++ ((renderItems (depth + 1) none body).toList ++ (last ++ '}' :: (['\n'] ++ rest))) ∧
      skipLayout text = type.toList ++ headingText labels inside ∧ after? '}' text = none ∧
      (headingText labels inside).length < text.length ∧ (['\n'] ++ rest).length < inside.length := by
  obtain ⟨inside, first, last, hfirst, hlast, hinside, hblock⟩ : ∃ inside first last,
      AreLayout first ∧ AreLayout last ∧
      inside = first ++ ((renderItems (depth + 1) none body).toList ++ (last ++ '}' :: (['\n'] ++ rest))) ∧
      ((Block.mk type labels body).renderAt depth).toList ++ rest =
        (indent depth).toList ++ (type.toList ++ headingText labels inside) := by
    cases body with
    | nil =>
      refine ⟨_, [], [], areLayout_nil, areLayout_nil, rfl, ?_⟩
      simp [Block.renderAt, renderItems, headingText]
    | cons item body =>
      refine ⟨_, ['\n'], (indent depth).toList, areLayout_break, areLayout_indent depth, rfl, ?_⟩
      simp [Block.renderAt, headingText]
  have hindent := hlead.append (areLayout_indent depth)
  have hbegins := hword.begins.append (headingText labels inside)
  have hpos := hword.begins.length_pos
  rw [hblock, ← List.append_assoc] at htext
  refine ⟨inside, first, last, hfirst, hlast, hinside, ?_, ?_, ?_, ?_⟩
  · rw [htext, hbegins.skipLayout hindent]
  · rw [htext, (hbegins.after?_eq_none hindent).2]
  · rw [htext, List.length_append, List.length_append, List.length_append]
    omega
  · simp only [hinside, List.length_append, List.length_cons]
    omega

/-- A body is read whatever the column of its attributes is, and whatever layout surrounds it. -/
theorem readBody_renderItems (depth : Nat) (column : Option Nat) (body : List BodyItem)
    (h : AreLexical (bodyTypes body) (bodyAttributes body)) (fuel : Nat) (rest : List Char)
    {lead trail : List Char} (hlead : AreLayout lead) (htrail : AreLayout trail)
    (hfuel : 2 * (lead ++ ((renderItems depth column body).toList ++
      (trail ++ '}' :: rest))).length + 1 < fuel) :
    readBody fuel (lead ++ ((renderItems depth column body).toList ++ (trail ++ '}' :: rest))) =
      some (spelledBody body, rest) := by
  obtain ⟨n, rfl⟩ := Nat.exists_eq_succ_of_ne_zero (Nat.ne_zero_of_lt hfuel)
  cases body with
  | nil =>
    rw [renderItems, String.toList_empty, List.nil_append, ← List.append_assoc, readBody,
      after?_append (hlead.append htrail) rfl]
    rfl
  | cons item body =>
    cases item with
    | setting key value =>
      obtain ⟨hvalue, hbody⟩ := h.setting
      have hline := length_renderLine depth (column.getD (runWidth (.setting key value :: body))) key
        (value.render depth)
      rw [renderItems, String.toList_append, List.append_assoc] at hfuel ⊢
      generalize column.getD (runWidth (.setting key value :: body)) = width at hline hfuel ⊢
      obtain ⟨hnone, after, tail, hname, hequals, htail⟩ := exists_rest_renderLine depth width key
        (Value.begins_render depth hvalue) hlead
        ((renderItems depth (some width) body).toList ++ (trail ++ '}' :: rest))
      rw [List.length_append, List.length_append] at hfuel
      have hread := Value.readValue_render depth value hvalue n _ (stops_break
        ((renderItems depth (some width) body).toList ++ (trail ++ '}' :: rest))) (by
          rw [List.length_append, List.length_append, List.length_singleton]
          omega)
      have hreadBody := readBody_renderItems depth (some width) body hbody n rest areLayout_break htrail
        (by rw [List.length_append, List.length_singleton]; omega)
      simp only [readBody, hnone, hname, hequals, htail, hread, hreadBody, Option.bind_eq_bind,
        Option.bind_some]
      rfl
    | block content =>
      obtain ⟨type, labels, inner⟩ := content
      obtain ⟨hcontent, hbody⟩ := AreLexical.append.mp h
      have hword := Block.IsLexical.isWord hcontent
      have hgap : AreLayout (if column.isSome then "\n" else "").toList := by
        split
        · exact areLayout_break
        · exact areLayout_nil
      have htext : lead ++ ((renderItems depth column (.block ⟨type, labels, inner⟩ :: body)).toList ++
          (trail ++ '}' :: rest)) = lead ++ (if column.isSome then "\n" else "").toList ++
            (((Block.mk type labels inner).renderAt depth).toList ++
              ((renderItems depth none body).toList ++ (trail ++ '}' :: rest))) := by
        rw [renderItems, String.toList_append, String.toList_append]
        simp only [List.append_assoc]
      obtain ⟨inside, first, last, hfirst, hlast, hinside, hskip, hopen, hlength, hrest⟩ :=
        exists_inside_renderAt depth hword labels inner _ (hlead.append hgap) htext
      have hheading := length_headingText labels inside
      have hreadInner := readBody_renderItems (depth + 1) none inner
        (Block.IsLexical.contents hcontent) n (['\n'] ++ ((renderItems depth none body).toList ++
          (trail ++ '}' :: rest))) hfirst hlast (by rw [← hinside]; omega)
      rw [← hinside] at hreadInner
      have hlabels := readLabels_headingText labels inside n (by omega)
      have hreadBody := readBody_renderItems depth none body hbody n rest areLayout_break htrail (by omega)
      simp only [readBody, hopen, hskip, takeName?_of_isWord hword (stops_headingText labels inside),
        after?_headingText, hlabels, hreadInner, hreadBody, Option.bind_eq_bind, Option.bind_some]
      rfl

theorem exists_gap_renderAll (b : Block) (blocks : List Block) :
    ∃ gap, AreLayout gap ∧ (Block.renderAll (b :: blocks)).toList =
      (b.renderAt 0).toList ++ (gap ++ (Block.renderAll blocks).toList) := by
  cases blocks with
  | nil => exact ⟨[], areLayout_nil, by simp [Block.renderAll, Block.render]⟩
  | cons next blocks =>
    exact ⟨['\n'], areLayout_break, by
      simp [Block.renderAll, Block.render, String.toList_intercalate]⟩

theorem readBlocks_renderAll (blocks : List Block) (h : ∀ b ∈ blocks, b.IsLexical) (fuel : Nat)
    {lead : List Char} (hlead : AreLayout lead)
    (hfuel : 2 * (lead ++ (Block.renderAll blocks).toList).length + 1 < fuel) :
    readBlocks fuel (lead ++ (Block.renderAll blocks).toList) = some (blocks.map Block.spelled) := by
  induction blocks generalizing fuel lead with
  | nil =>
    obtain ⟨n, rfl⟩ := Nat.exists_eq_succ_of_ne_zero (Nat.ne_zero_of_lt hfuel)
    have hskip : skipLayout (lead ++ (Block.renderAll []).toList) = [] := skipLayout_append hlead []
    rw [readBlocks, hskip]
    rfl
  | cons b blocks ih =>
    obtain ⟨n, rfl⟩ := Nat.exists_eq_succ_of_ne_zero (Nat.ne_zero_of_lt hfuel)
    obtain ⟨hb, hblocks⟩ := List.forall_mem_cons.mp h
    obtain ⟨type, labels, body⟩ := b
    have hword := hb.isWord
    obtain ⟨gap, hgap, hall⟩ := exists_gap_renderAll ⟨type, labels, body⟩ blocks
    obtain ⟨inside, first, last, hfirst, hlast, hinside, hskip, _, hlength, hrest⟩ :=
      exists_inside_renderAt 0 hword labels body _ hlead (congrArg (lead ++ ·) hall)
    have hheading := length_headingText labels inside
    have hreadBody := readBody_renderItems (0 + 1) none body hb.contents n (['\n'] ++
      (gap ++ (Block.renderAll blocks).toList)) hfirst hlast (by rw [← hinside]; omega)
    rw [← hinside, ← List.append_assoc] at hreadBody
    rw [← List.append_assoc] at hrest
    have hlabels := readLabels_headingText labels inside n (by omega)
    have hreadBlocks := ih hblocks n (areLayout_break.append hgap) (by omega)
    obtain ⟨c, cs, hcons, _⟩ := hword.begins.append (headingText labels inside)
    have htake := takeWord?_append hword (stops_headingText labels inside)
    rw [hcons] at htake hskip
    simp only [readBlocks, hskip, htake, hlabels, hreadBody, hreadBlocks, Option.bind_eq_bind,
      Option.bind_some]
    rfl

end Groundplan
