import Groundplan.Proofs.Reading
import Mathlib.Data.List.Forall2

/-!
# Configuration text is unambiguous

Two lists of blocks with the same text are equal up to numbers that are written alike.
-/

namespace Groundplan

mutual

/-- Whether two values are equal, numbers with the same text being equal. -/
def Value.Alike : Value → Value → Prop
  | .string s, .string t => s = t
  | .expression e, .expression f => e = f
  | .number m, .number n => m.text = n.text
  | .bool b, .bool c => b = c
  | .list items, .list others => ItemsAlike items others
  | .object entries, .object others => EntriesAlike entries others
  | _, _ => False

def ItemsAlike : List Value → List Value → Prop
  | [], [] => True
  | item :: items, other :: others => item.Alike other ∧ ItemsAlike items others
  | _, _ => False

def EntriesAlike : List (String × Value) → List (String × Value) → Prop
  | [], [] => True
  | (key, value) :: entries, (other, content) :: others =>
    key = other ∧ value.Alike content ∧ EntriesAlike entries others
  | _, _ => False

end

mutual

/-- Whether two blocks are equal, numbers with the same text being equal. -/
def Block.Alike : Block → Block → Prop
  | ⟨type, labels, body⟩, ⟨otherType, otherLabels, otherBody⟩ =>
    type = otherType ∧ labels = otherLabels ∧ BodiesAlike body otherBody

def BodiesAlike : List BodyItem → List BodyItem → Prop
  | [], [] => True
  | .setting key value :: body, .setting other content :: others =>
    key = other ∧ value.Alike content ∧ BodiesAlike body others
  | .block b :: body, .block c :: others => b.Alike c ∧ BodiesAlike body others
  | _, _ => False

end

theorem Value.ne_text_of_isLexical {e : String} (h : (Value.expression e).IsLexical) (n : Number) :
    e ≠ n.text := by
  rintro rfl
  have hword := h n.text (by simp [Value.expressions])
  rw [n.isNumeral_text.isExpressionWord_eq_false] at hword
  cases hword

mutual

theorem Value.alike_of_spelled_eq {v w : Value} (hv : v.IsLexical) (hw : w.IsLexical)
    (h : v.spelled = w.spelled) : v.Alike w := by
  cases v with
  | string s => cases w <;> simp_all [Value.spelled, Value.Alike]
  | expression e =>
    cases w with
    | number n => exact absurd (Value.expression.inj h) (Value.ne_text_of_isLexical hv n)
    | _ => simp_all [Value.spelled, Value.Alike]
  | number n =>
    cases w with
    | expression e => exact absurd (Value.expression.inj h).symm (Value.ne_text_of_isLexical hw n)
    | _ => simp_all [Value.spelled, Value.Alike]
  | bool b => cases w <;> simp_all [Value.spelled, Value.Alike]
  | list items =>
    cases w with
    | list others => exact itemsAlike_of_spelledItems_eq hv hw (Value.list.inj h)
    | _ => simp [Value.spelled] at h
  | object entries =>
    cases w with
    | object others => exact entriesAlike_of_spelledEntries_eq hv hw (Value.object.inj h)
    | _ => simp [Value.spelled] at h

theorem itemsAlike_of_spelledItems_eq {items others : List Value} (hitems : Value.AreLexical items)
    (hothers : Value.AreLexical others) (h : Value.spelledItems items = Value.spelledItems others) :
    ItemsAlike items others := by
  cases items with
  | nil => cases others <;> simp_all [Value.spelledItems, ItemsAlike]
  | cons item items =>
    cases others with
    | nil => simp [Value.spelledItems] at h
    | cons other others =>
      rw [Value.areLexical_cons] at hitems hothers
      obtain ⟨hitem, hrest⟩ := List.cons.inj h
      exact ⟨Value.alike_of_spelled_eq hitems.1 hothers.1 hitem,
        itemsAlike_of_spelledItems_eq hitems.2 hothers.2 hrest⟩

theorem entriesAlike_of_spelledEntries_eq {entries others : List (String × Value)}
    (hentries : Value.EntriesLexical entries) (hothers : Value.EntriesLexical others)
    (h : Value.spelledEntries entries = Value.spelledEntries others) : EntriesAlike entries others := by
  cases entries with
  | nil => cases others <;> simp_all [Value.spelledEntries, EntriesAlike]
  | cons entry entries =>
    cases others with
    | nil => simp [Value.spelledEntries] at h
    | cons other others =>
      rw [Value.entriesLexical_cons] at hentries hothers
      obtain ⟨hentry, hrest⟩ := List.cons.inj h
      obtain ⟨hkey, hvalue⟩ := Prod.mk.inj hentry
      exact ⟨hkey, Value.alike_of_spelled_eq hentries.1 hothers.1 hvalue,
        entriesAlike_of_spelledEntries_eq hentries.2 hothers.2 hrest⟩

end

mutual

theorem Block.alike_of_spelled_eq {b c : Block} (hb : b.IsLexical) (hc : c.IsLexical)
    (h : b.spelled = c.spelled) : b.Alike c := by
  obtain ⟨type, labels, body⟩ := b
  obtain ⟨otherType, otherLabels, otherBody⟩ := c
  obtain ⟨htype, hlabels, hbody⟩ := Block.mk.inj h
  exact ⟨htype, hlabels, bodiesAlike_of_spelledBody_eq hb.contents hc.contents hbody⟩

theorem bodiesAlike_of_spelledBody_eq {body others : List BodyItem}
    (hbody : AreLexical (bodyTypes body) (bodyAttributes body))
    (hothers : AreLexical (bodyTypes others) (bodyAttributes others))
    (h : spelledBody body = spelledBody others) : BodiesAlike body others := by
  cases body with
  | nil =>
    cases others with
    | nil => trivial
    | cons other others => cases other <;> simp [spelledBody] at h
  | cons item body =>
    cases others with
    | nil => cases item <;> simp [spelledBody] at h
    | cons other others =>
      cases item with
      | setting key value =>
        cases other with
        | setting otherKey content =>
          obtain ⟨hvalue, hrest⟩ := hbody.setting
          obtain ⟨hcontent, hothersRest⟩ := hothers.setting
          obtain ⟨hitem, htail⟩ := List.cons.inj h
          obtain ⟨hkey, hspelled⟩ := BodyItem.setting.inj hitem
          exact ⟨hkey, Value.alike_of_spelled_eq hvalue hcontent hspelled,
            bodiesAlike_of_spelledBody_eq hrest hothersRest htail⟩
        | block c => simp [spelledBody] at h
      | block b =>
        cases other with
        | setting otherKey content => simp [spelledBody] at h
        | block c =>
          obtain ⟨hb, hrest⟩ := AreLexical.append.mp hbody
          obtain ⟨hc, hothersRest⟩ := AreLexical.append.mp hothers
          obtain ⟨hitem, htail⟩ := List.cons.inj h
          exact ⟨Block.alike_of_spelled_eq hb hc (BodyItem.block.inj hitem),
            bodiesAlike_of_spelledBody_eq hrest hothersRest htail⟩

end

theorem forall₂_alike_of_map_spelled_eq {blocks others : List Block}
    (hblocks : ∀ b ∈ blocks, b.IsLexical) (hothers : ∀ b ∈ others, b.IsLexical)
    (h : blocks.map Block.spelled = others.map Block.spelled) :
    List.Forall₂ Block.Alike blocks others := by
  induction blocks generalizing others with
  | nil =>
    cases others with
    | nil => exact .nil
    | cons other others => cases h
  | cons b blocks ih =>
    cases others with
    | nil => cases h
    | cons other others =>
      obtain ⟨hspelled, hrest⟩ := List.cons.inj h
      obtain ⟨hb, hblocks⟩ := List.forall_mem_cons.mp hblocks
      obtain ⟨hother, hothers⟩ := List.forall_mem_cons.mp hothers
      exact .cons (Block.alike_of_spelled_eq hb hother hspelled) (ih hblocks hothers hrest)

theorem readDocument_renderAll {blocks : List Block} (h : ∀ b ∈ blocks, b.IsLexical) :
    readDocument (Block.renderAll blocks) = some (blocks.map Block.spelled) := by
  apply readBlocks_renderAll blocks h _ areLayout_nil
  rw [List.nil_append]
  omega

theorem Value.alike_of_render_eq {v w : Value} (hv : v.IsLexical) (hw : w.IsLexical) (depth : Nat)
    (h : v.render depth = w.render depth) : v.Alike w := by
  have hread := Value.readValue_render depth v hv (2 * (v.render depth).toList.length + 1) []
    (fun _ hc => by cases hc) (by rw [List.append_nil]; omega)
  have hreadOther := Value.readValue_render depth w hw (2 * (w.render depth).toList.length + 1) []
    (fun _ hc => by cases hc) (by rw [List.append_nil]; omega)
  rw [h, hreadOther, Option.some.injEq, Prod.mk.injEq] at hread
  exact Value.alike_of_spelled_eq hv hw hread.1.symm

/-- Blocks are read back from their text, with the text of each number in its place; so two lists of
blocks with the same text are alike, and two values that have the same text at some depth. -/
theorem renderAll_unambiguous (blocks others : List Block) (hblocks : ∀ b ∈ blocks, b.IsLexical)
    (hothers : ∀ b ∈ others, b.IsLexical) (v w : Value) (hv : v.IsLexical) (hw : w.IsLexical) :
    readDocument (Block.renderAll blocks) = some (blocks.map Block.spelled) ∧
      (Block.renderAll blocks = Block.renderAll others → List.Forall₂ Block.Alike blocks others) ∧
      ∀ depth, v.render depth = w.render depth → v.Alike w := by
  refine ⟨readDocument_renderAll hblocks, ?_, Value.alike_of_render_eq hv hw⟩
  intro h
  have hread := readDocument_renderAll hblocks
  rw [h, readDocument_renderAll hothers, Option.some.injEq] at hread
  exact forall₂_alike_of_map_spelled_eq hblocks hothers hread.symm

/-- An object whose keys and strings look like syntax. -/
def trickyValue (n : Number) : Value :=
  .object [("true", .string "\"]\n\x7d"), ("$\x7b", .list [.expression "var.x", .number n])]

def trickyBlock (n : Number) : Block where
  type := "resource"
  labels := ["a\" \x7b", "\n\x7d\n"]
  body := [.setting "x = 1\n" (trickyValue n), .block ⟨"tags", [], [.setting "ok" (.bool true)]⟩]

theorem isLexical_trickyValue (n : Number) : (trickyValue n).IsLexical := by
  intro e he
  simp [trickyValue, Value.expressions, Value.entryExpressions, Value.itemExpressions] at he
  rw [he]
  decide

theorem isLexical_trickyBlock (n : Number) : (trickyBlock n).IsLexical where
  types := by
    intro type h
    simp [trickyBlock, Block.types, bodyTypes] at h
    rcases h with rfl | rfl <;> decide
  values := by
    intro a ha
    simp [trickyBlock, Block.attributes, bodyAttributes] at ha
    rcases ha with rfl | rfl
    · exact isLexical_trickyValue n
    · intro e he
      cases he

/-- The zeros of two exponents have the same text. -/
theorem renderAll_unambiguous_zeros :
    let zero : Number := .float ⟨false, ⟨0, 0⟩⟩
    let least : Number := .float ⟨false, ⟨0, -1074⟩⟩
    readDocument (Block.renderAll [trickyBlock zero]) = some [(trickyBlock zero).spelled] ∧
      (trickyBlock zero).Alike (trickyBlock least) ∧ (trickyValue zero).Alike (trickyValue least) := by
  intro zero least
  have htext : zero.text = least.text := by simp [zero, least, Number.text, Number.writeFloat]
  obtain ⟨hread, hblocks, hvalues⟩ := renderAll_unambiguous [trickyBlock zero] [trickyBlock least]
    (by simpa using isLexical_trickyBlock zero) (by simpa using isLexical_trickyBlock least)
    (trickyValue zero) (trickyValue least) (isLexical_trickyValue zero) (isLexical_trickyValue least)
  have hvalue : ∀ depth, (trickyValue zero).render depth = (trickyValue least).render depth := by
    intro depth
    simp [trickyValue, Value.render, Value.renderEntries, Value.renderItems, htext]
  have hblock : Block.renderAll [trickyBlock zero] = Block.renderAll [trickyBlock least] := by
    simp [Block.renderAll, Block.render, trickyBlock, Block.renderAt, renderItems, hvalue, runWidth,
      BodyItem.setting?]
  exact ⟨hread, (List.forall₂_cons.mp (hblocks hblock)).1, hvalues 3 (hvalue 3)⟩

end Groundplan
