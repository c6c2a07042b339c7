import Groundplan.Proofs.BlockContents
import Groundplan.Proofs.Collecting
import Mathlib.Data.List.Induction

/-!
# Building blocks

What a history of building steps makes of a block. A nested block takes the next place in the body, and
so does an attribute when its key is set for the first time. Setting the key again changes the value
and leaves every place as it is.
-/

namespace Groundplan

namespace BodyItem

@[simp] theorem hasKey_setting (key other : String) (value : Value) :
    (setting other value).hasKey key = (other == key) := rfl

def key? : BodyItem → Option String
  | .setting key _ => some key
  | .block _ => none

/-- The item with another value, if it is an attribute. -/
def mapValue (f : String → Value → Value) : BodyItem → BodyItem
  | .setting key value => .setting key (f key value)
  | .block content => .block content

variable (f : String → Value → Value) (item : BodyItem)

@[simp] theorem key?_mapValue : (item.mapValue f).key? = item.key? := by
  cases item <;> rfl

@[simp] theorem block?_mapValue : (item.mapValue f).block? = item.block? := by
  cases item <;> rfl

theorem mapValue_congr {f g : String → Value → Value} {item : BodyItem}
    (h : ∀ key, item.key? = some key → f key = g key) : item.mapValue f = item.mapValue g := by
  cases item with
  | setting key value => rw [mapValue, mapValue, h key rfl]
  | block content => rfl

variable {item} {key : String}

theorem hasKey_iff : item.hasKey key = true ↔ item.key? = some key := by
  cases item <;> simp [hasKey, key?]

theorem valueAt?_of_key?_ne (h : item.key? ≠ some key) : item.valueAt? key = none :=
  valueAt?_of_hasKey_false (Bool.eq_false_iff.mpr (mt hasKey_iff.mp h))

end BodyItem

/-- The keys of the attributes of a body, in the order in which they stand. -/
def bodyKeys (body : List BodyItem) : List String := body.filterMap (·.key?)

/-- The value that a list of items gives to a key last. -/
def lastValue? (items : List BodyItem) (key : String) : Option Value :=
  (items.filterMap (·.valueAt? key)).getLast?

/-- The items that take a place in a body: blocks, and attributes whose key has not come up before. -/
def firstItems : List BodyItem → List BodyItem
  | [] => []
  | .setting key value :: items =>
    .setting key value :: (firstItems items).filter fun other => !other.hasKey key
  | .block content :: items => .block content :: firstItems items

/-- The body in which the items that take a place stand in turn, and each attribute has the value that
its key was given last. -/
def settledBody (items : List BodyItem) : List BodyItem :=
  (firstItems items).map (·.mapValue fun key value => (lastValue? items key).getD value)

section Keys

variable {body : List BodyItem} {key other : String}

theorem mem_bodyKeys_iff : key ∈ bodyKeys body ↔ ∃ item ∈ body, item.key? = some key :=
  List.mem_filterMap

@[simp] theorem bodyKeys_cons_setting (key : String) (value : Value) (rest : List BodyItem) :
    bodyKeys (.setting key value :: rest) = key :: bodyKeys rest := rfl

theorem bodyKeys_map_mapValue (f : String → Value → Value) (body : List BodyItem) :
    bodyKeys (body.map (·.mapValue f)) = bodyKeys body := by
  simp only [bodyKeys, List.filterMap_map, Function.comp_def, BodyItem.key?_mapValue]

theorem findSome?_valueAt?_of_notMem (h : key ∉ bodyKeys body) :
    body.findSome? (·.valueAt? key) = none := by
  rw [List.findSome?_eq_none_iff]
  intro item hitem
  exact BodyItem.valueAt?_of_key?_ne fun hkey => h (mem_bodyKeys_iff.mpr ⟨item, hitem, hkey⟩)

theorem findSome?_setAttribute_of_ne (h : other ≠ key) (value : Value) (body : List BodyItem) :
    (setAttribute key value body).findSome? (·.valueAt? other) =
      body.findSome? (·.valueAt? other) := by
  have hset : (BodyItem.setting key value).valueAt? other = none :=
    BodyItem.valueAt?_of_key?_ne fun heq => h (Option.some.inj heq).symm
  induction body with
  | nil => simp [setAttribute, hset]
  | cons item rest ih =>
    rw [setAttribute]
    split
    · rename_i hkey
      have hitem : item.valueAt? other = none := BodyItem.valueAt?_of_key?_ne fun heq =>
        h (Option.some.inj (heq.symm.trans (BodyItem.hasKey_iff.mp hkey)))
      rw [List.findSome?_cons, List.findSome?_cons, hset, hitem]
    · rw [List.findSome?_cons, List.findSome?_cons, ih]

theorem map_mapValue_of_notMem (h : key ∉ bodyKeys body) (value : Value) :
    body.map (·.mapValue fun other old => if other = key then value else old) = body := by
  induction body with
  | nil => rfl
  | cons item rest ih =>
    cases item with
    | setting other old =>
      have hne : other ≠ key := fun heq => h (heq ▸ List.mem_cons_self)
      rw [List.map_cons, ih (List.not_mem_of_not_mem_cons h), BodyItem.mapValue, if_neg hne]
    | block content => rw [List.map_cons, ih h, BodyItem.mapValue]

theorem setAttribute_of_mem (hn : (bodyKeys body).Nodup) (h : key ∈ bodyKeys body) (value : Value) :
    setAttribute key value body =
      body.map (·.mapValue fun other old => if other = key then value else old) := by
  induction body with
  | nil => exact absurd h List.not_mem_nil
  | cons item rest ih =>
    cases item with
    | setting other old =>
      obtain ⟨hother, hrest⟩ := List.nodup_cons.mp hn
      by_cases heq : other = key
      · subst heq
        rw [setAttribute, if_pos (by simp), List.map_cons, map_mapValue_of_notMem hother,
          BodyItem.mapValue, if_pos rfl]
      · have hmem : key ∈ bodyKeys rest := (List.mem_cons.mp h).resolve_left (Ne.symm heq)
        rw [setAttribute, if_neg (by simpa using heq), List.map_cons, ih hrest hmem,
          BodyItem.mapValue, if_neg heq]
    | block content =>
      rw [List.map_cons, ← ih hn h]
      rfl

end Keys

theorem blocks_filter_hasKey (items : List BodyItem) (key : String) :
    (items.filter fun item => !item.hasKey key).filterMap (·.block?) =
      items.filterMap (·.block?) := by
  induction items with
  | nil => rfl
  | cons item items ih =>
    cases item with
    | setting other value =>
      rw [List.filter_cons, List.filterMap_cons_none (by rfl), ← ih]
      split <;> rfl
    | block content => exact congrArg (content :: ·) ih

theorem bodyKeys_filter_hasKey (items : List BodyItem) (key : String) :
    bodyKeys (items.filter fun item => !item.hasKey key) = (bodyKeys items).filter (· != key) := by
  induction items with
  | nil => rfl
  | cons item items ih =>
    cases item with
    | setting other value =>
      by_cases heq : other = key
      · rw [List.filter_cons_of_neg (by simpa using heq), ih, bodyKeys_cons_setting,
          List.filter_cons_of_neg (by simpa using heq)]
      · rw [List.filter_cons_of_pos (by simpa using heq), bodyKeys_cons_setting, ih,
          bodyKeys_cons_setting, List.filter_cons_of_pos (by simpa using heq)]
    | block content => exact ih

theorem bodyKeys_firstItems (items : List BodyItem) :
    bodyKeys (firstItems items) = firstNamed id (bodyKeys items) := by
  induction items with
  | nil => rfl
  | cons item items ih =>
    cases item with
    | setting key value =>
      exact congrArg (key :: ·) ((bodyKeys_filter_hasKey _ key).trans (congrArg _ ih))
    | block content => exact ih

theorem blocks_firstItems (items : List BodyItem) :
    (firstItems items).filterMap (·.block?) = items.filterMap (·.block?) := by
  induction items with
  | nil => rfl
  | cons item items ih =>
    cases item with
    | setting key value => exact (blocks_filter_hasKey _ key).trans ih
    | block content => exact congrArg (content :: ·) ih

theorem firstItems_append_block (items : List BodyItem) (content : Block) :
    firstItems (items ++ [.block content]) = firstItems items ++ [.block content] := by
  induction items with
  | nil => rfl
  | cons item items ih =>
    cases item with
    | setting key value =>
      rw [List.cons_append, firstItems, ih, List.filter_append]
      rfl
    | block other => exact congrArg (.block other :: ·) ih

theorem firstItems_append_setting (items : List BodyItem) (key : String) (value : Value) :
    firstItems (items ++ [.setting key value]) =
      firstItems items ++ if key ∈ bodyKeys items then [] else [.setting key value] := by
  induction items with
  | nil => rfl
  | cons item items ih =>
    cases item with
    | setting other old =>
      rw [List.cons_append, firstItems, ih, List.filter_append, firstItems, List.cons_append,
        bodyKeys_cons_setting]
      congr 2
      by_cases heq : key = other
      · subst heq
        split <;> simp
      · simp only [List.mem_cons, heq, false_or]
        split
        · rfl
        · simp [heq]
    | block content => exact congrArg (.block content :: ·) ih

theorem lastValue?_append (items : List BodyItem) (item : BodyItem) (key : String) :
    lastValue? (items ++ [item]) key = (item.valueAt? key).or (lastValue? items key) := by
  rw [lastValue?, List.filterMap_append, List.getLast?_append]
  cases h : item.valueAt? key <;> simp [h, lastValue?]

theorem lastValue?_append_block (items : List BodyItem) (content : Block) :
    lastValue? (items ++ [.block content]) = lastValue? items := by
  funext key
  rw [lastValue?_append]
  rfl

theorem bodyKeys_settledBody (items : List BodyItem) :
    bodyKeys (settledBody items) = firstNamed id (bodyKeys items) := by
  rw [settledBody, bodyKeys_map_mapValue, bodyKeys_firstItems]

theorem blocks_settledBody (items : List BodyItem) :
    (settledBody items).filterMap (·.block?) = items.filterMap (·.block?) := by
  simp only [settledBody, List.filterMap_map, Function.comp_def, BodyItem.block?_mapValue,
    blocks_firstItems]

theorem nodup_bodyKeys_settledBody (items : List BodyItem) :
    (bodyKeys (settledBody items)).Nodup := by
  rw [bodyKeys_settledBody]
  simpa using nodup_map_firstNamed id (bodyKeys items)

theorem mem_bodyKeys_settledBody {items : List BodyItem} {key : String} :
    key ∈ bodyKeys (settledBody items) ↔ key ∈ bodyKeys items := by
  have hfind := congrArg Option.isSome (find?_firstNamed id (bodyKeys items) key)
  rw [Bool.eq_iff_iff] at hfind
  simpa [bodyKeys_settledBody] using hfind

theorem settledBody_append_block (items : List BodyItem) (content : Block) :
    settledBody (items ++ [.block content]) = settledBody items ++ [.block content] := by
  rw [settledBody, lastValue?_append_block, firstItems_append_block, List.map_append]
  rfl

theorem getD_lastValue?_append_setting (items : List BodyItem) (key other : String)
    (value old : Value) : (lastValue? (items ++ [.setting key value]) other).getD old =
      if other = key then value else (lastValue? items other).getD old := by
  rw [lastValue?_append, BodyItem.valueAt?]
  by_cases heq : other = key
  · simp [heq]
  · simp [heq, Ne.symm heq]

theorem settledBody_append_setting (items : List BodyItem) (key : String) (value : Value) :
    settledBody (items ++ [.setting key value]) = setAttribute key value (settledBody items) := by
  rw [settledBody, firstItems_append_setting]
  simp only [getD_lastValue?_append_setting]
  by_cases h : key ∈ bodyKeys items
  · have hmem := mem_bodyKeys_settledBody.mpr h
    rw [if_pos h, List.append_nil, setAttribute_of_mem (nodup_bodyKeys_settledBody items) hmem,
      settledBody, List.map_map]
    refine List.map_congr_left fun item _ => ?_
    cases item <;> rfl
  · have hfresh := mt mem_bodyKeys_settledBody.mp h
    rw [if_neg h, setAttribute_of_fresh (findSome?_valueAt?_of_notMem hfresh), List.map_append,
      settledBody]
    congr 1
    · refine List.map_congr_left fun item hitem => BodyItem.mapValue_congr fun other hother => ?_
      have hne : other ≠ key := by
        rintro rfl
        rw [bodyKeys_settledBody, ← bodyKeys_firstItems] at hfresh
        exact hfresh (mem_bodyKeys_iff.mpr ⟨item, hitem, hother⟩)
      simp only [if_neg hne]
    · rw [List.map_singleton, BodyItem.mapValue, if_pos rfl]

/-- An attribute of the settled body has the value that its key was given last. -/
theorem findSome?_settledBody (items : List BodyItem) (key : String) :
    (settledBody items).findSome? (·.valueAt? key) = lastValue? items key := by
  induction items using List.reverseRecOn with
  | nil => rfl
  | append_singleton items item ih =>
    cases item with
    | setting other value =>
      rw [settledBody_append_setting, lastValue?_append, BodyItem.valueAt?]
      by_cases heq : key = other
      · subst heq
        simp [Block.findSome?_setAttribute_self]
      · rw [findSome?_setAttribute_of_ne heq, ih]
        simp [Ne.symm heq]
    | block content =>
      rw [settledBody_append_block, List.findSome?_append, ih, lastValue?_append_block]
      simp [BodyItem.valueAt?]

namespace Block

def keys (b : Block) : List String := bodyKeys b.body

/-- The block with an item put into its body. -/
def put (b : Block) : BodyItem → Block
  | .setting key value => b.set key value
  | .block content => b.nest content

theorem foldl_put (type : String) (labels : List String) (items : List BodyItem) :
    items.foldl put (ofType type labels) = ⟨type, labels, settledBody items⟩ := by
  induction items using List.reverseRecOn with
  | nil => rfl
  | append_singleton items item ih =>
    rw [List.foldl_append, ih]
    cases item with
    | setting key value => rw [settledBody_append_setting]; rfl
    | block content => rw [settledBody_append_block]; rfl

/-- A step in building a block. -/
inductive Step where
  | set (key : String) (value : Value)
  | set? (key : String) (value : Option Value)
  | nest (child : Block)

/-- The block after a step. -/
def Step.run (b : Block) : Step → Block
  | .set key value => b.set key value
  | .set? key value => b.set? key value
  | .nest child => b.nest child

def build (b : Block) (steps : List Step) : Block := steps.foldl Step.run b

/-- What a step puts into the body: an attribute without a value is nothing. -/
def Step.item? : Step → Option BodyItem
  | .set key value => some (.setting key value)
  | .set? key value => value.map (.setting key)
  | .nest child => some (.block child)

def stepItems (steps : List Step) : List BodyItem := steps.filterMap (·.item?)

theorem build_eq_foldl_put (b : Block) (steps : List Step) :
    b.build steps = (stepItems steps).foldl put b := by
  induction steps generalizing b with
  | nil => rfl
  | cons step steps ih =>
    rw [build, List.foldl_cons]
    refine (ih (step.run b)).trans ?_
    cases step with
    | set key value => rfl
    | set? key value => cases value <;> rfl
    | nest child => rfl

/-- Whatever steps a block is built by, no two of its attributes have the same key. They stand in the
order in which their keys were first set, nested blocks in the order in which they were put in, and
both among each other as the steps came. An attribute has the value that its key was given last, and
there is none for a key that was given no value. Setting an attribute to no value changes nothing. -/
theorem build_follows_steps (type : String) (labels : List String) (steps : List Step) :
    let items := stepItems steps
    let b := (ofType type labels).build steps
    b.keys.Nodup ∧
      b.keys = firstNamed id (bodyKeys items) ∧
      (∀ nestedType, b.nested nestedType =
        (items.filterMap (·.block?)).filter (·.type == nestedType)) ∧
      b = ⟨type, labels, settledBody items⟩ ∧
      (∀ key, b.get? key = lastValue? items key) ∧
      ∀ before key after, (ofType type labels).build (before ++ .set? key none :: after) =
        (ofType type labels).build (before ++ after) := by
  intro items b
  have hb : b = ⟨type, labels, settledBody items⟩ :=
    (build_eq_foldl_put _ _).trans (foldl_put type labels items)
  refine ⟨?_, ?_, ?_, hb, ?_, ?_⟩
  · rw [hb]
    exact nodup_bodyKeys_settledBody items
  · rw [hb]
    exact bodyKeys_settledBody items
  · intro nestedType
    rw [hb, nested, blocks_settledBody]
  · intro key
    rw [hb]
    exact findSome?_settledBody items key
  · intro before key after
    simp only [build_eq_foldl_put, stepItems, List.filterMap_append, List.filterMap_cons, Step.item?,
      Option.map_none]

/-- A key that is set again keeps its place before a nested block. -/
example : ((resource "plant_pump" "main").build [.set "name" (.string "first"),
    .nest (ofType "valve" []), .set? "site" none, .set "spare" (.bool true),
    .set "name" (.string "second")]).body = [.setting "name" (.string "second"),
      .block (ofType "valve" []), .setting "spare" (.bool true)] := rfl

end Block

end Groundplan
