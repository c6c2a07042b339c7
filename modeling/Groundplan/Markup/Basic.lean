import Groundplan.Json.Basic

/-!
# Markup trees

The tree behind a text, whichever notation it was written in. A tree also records where its text
goes wrong: everything before a flaw has been read, nothing after it. A reader that walks a tree in
order therefore meets an unfit value before a flaw that comes later, and a flaw before an unfit
value that comes later.
-/

namespace Groundplan

/-- What a single word or string of a text stands for. -/
inductive Scalar where
  | null
  | bool (b : Bool)
  | number (n : Number)
  | text (s : String)
  /-- Well-formed text that stands for no value: a number out of range, half a character. -/
  | unusable
deriving DecidableEq, Repr

/-- The tree behind a text. -/
inductive Markup where
  /-- A scalar, with its source where the notation lets the source stand for a string. -/
  | scalar (value : Scalar) (source : Option String)
  /-- A list; a positional one may stand for a record whose fields it gives in order. -/
  | list (positional : Bool) (items : List Markup)
  | record (fields : List (Markup × Markup))
  /-- A node with a name of its own in front. -/
  | tagged (tag : String) (content : Markup)
  /-- The place where the text stops being well formed. -/
  | flawed

namespace Markup

instance : Inhabited Markup := ⟨.flawed⟩

mutual

/-- Whether the text of the tree is well formed. -/
def sound : Markup → Bool
  | .scalar _ _ => true
  | .list _ items => soundItems items
  | .record fields => soundFields fields
  | .tagged _ content => sound content
  | .flawed => false

def soundItems : List Markup → Bool
  | [] => true
  | item :: items => sound item && soundItems items

def soundFields : List (Markup × Markup) → Bool
  | [] => true
  | (key, value) :: fields => sound key && sound value && soundFields fields

end

mutual

/-- Whether every part of the tree stands for a value, with no names in front. -/
def usable : Markup → Bool
  | .scalar value _ => value != .unusable
  | .list _ items => usableItems items
  | .record fields => usableFields fields
  | .tagged _ _ => false
  | .flawed => false

def usableItems : List Markup → Bool
  | [] => true
  | item :: items => usable item && usableItems items

def usableFields : List (Markup × Markup) → Bool
  | [] => true
  | (key, value) :: fields => usable key && usable value && usableFields fields

end

mutual

/-- The number of containers around the innermost part. -/
def depth : Markup → Nat
  | .scalar _ _ => 0
  | .list _ items => depthItems items + 1
  | .record fields => depthFields fields + 1
  | .tagged _ content => depth content
  | .flawed => 0

def depthItems : List Markup → Nat
  | [] => 0
  | item :: items => max (depth item) (depthItems items)

def depthFields : List (Markup × Markup) → Nat
  | [] => 0
  | (key, value) :: fields => max (max (depth key) (depth value)) (depthFields fields)

end

end Markup

namespace Json

mutual

def toMarkup : Json → Markup
  | .null => .scalar .null none
  | .bool b => .scalar (.bool b) none
  | .number n => .scalar (.number n) none
  | .string s => .scalar (.text s) none
  | .array items => .list true (toMarkupItems items)
  | .object members => .record (toMarkupMembers members)

def toMarkupItems : List Json → List Markup
  | [] => []
  | item :: items => toMarkup item :: toMarkupItems items

def toMarkupMembers : List (String × Json) → List (Markup × Markup)
  | [] => []
  | (name, value) :: members =>
    (.scalar (.text name) none, toMarkup value) :: toMarkupMembers members

end

end Json

end Groundplan
