import Groundplan.Decimal.Number

/-!
# Configuration blocks

The declarations a configuration consists of: blocks with a type, labels and a body of attributes
and nested blocks, and the values of attributes.
-/

namespace Groundplan

/-- The right-hand side of an attribute. Strings are plain text, which the writer quotes;
expressions are written as they are. -/
inductive Value where
  | string (s : String)
  | expression (e : String)
  | number (n : Number)
  | bool (b : Bool)
  | list (items : List Value)
  | object (entries : List (String × Value))

namespace Value

instance : Inhabited Value := ⟨.list []⟩

def string? : Value → Option String
  | .string s => some s
  | _ => none

def expression? : Value → Option String
  | .expression e => some e
  | _ => none

def ofStrings (items : List String) : Value := .list (items.map .string)

end Value

mutual

/-- One entry of a block's body. -/
inductive BodyItem where
  | setting (key : String) (value : Value)
  | block (content : Block)

/-- A declaration. -/
structure Block where
  type : String
  labels : List String
  body : List BodyItem

end

namespace BodyItem

def setting? : BodyItem → Option (String × Value)
  | .setting key value => some (key, value)
  | .block _ => none

def block? : BodyItem → Option Block
  | .block content => some content
  | .setting _ _ => none

def hasKey (key : String) : BodyItem → Bool
  | .setting other _ => other == key
  | .block _ => false

def valueAt? (key : String) : BodyItem → Option Value
  | .setting other value => if other == key then some value else none
  | .block _ => none

theorem valueAt?_of_hasKey_false {item : BodyItem} {key : String} (h : item.hasKey key = false) :
    item.valueAt? key = none := by
  cases item <;> simp_all [hasKey, valueAt?]

end BodyItem

/-- A body in which the first attribute with the given key has been given a new value, or to which
the attribute has been added. -/
def setAttribute (key : String) (value : Value) : List BodyItem → List BodyItem
  | [] => [.setting key value]
  | item :: rest =>
    if item.hasKey key then .setting key value :: rest else item :: setAttribute key value rest

namespace Block

instance : Inhabited Block := ⟨⟨"", [], []⟩⟩

def ofType (type : String) (labels : List String) : Block := ⟨type, labels, []⟩

def resource (terraformType label : String) : Block :=
  ofType "resource" [terraformType, label]

def addLabel (b : Block) (label : String) : Block := { b with labels := b.labels ++ [label] }

/-- The block with an attribute set. A key that is already there keeps its place. -/
def set (b : Block) (key : String) (value : Value) : Block :=
  { b with body := setAttribute key value b.body }

/-- The block with an attribute set if there is a value for it. -/
def set? (b : Block) (key : String) : Option Value → Block
  | none => b
  | some value => b.set key value

def nest (b : Block) (child : Block) : Block := { b with body := b.body ++ [.block child] }

/-- The value of the first attribute with the given key. -/
def get? (b : Block) (key : String) : Option Value := b.body.findSome? (·.valueAt? key)

def nested (b : Block) (type : String) : List Block :=
  (b.body.filterMap (·.block?)).filter (·.type == type)

/-- The name by which expressions refer to the block: only resources and data sources with a type
and a label have one. -/
def address? (b : Block) : Option String :=
  match b.type, b.labels with
  | "resource", [type, label] => some (type ++ "." ++ label)
  | "data", [type, label] => some ("data." ++ type ++ "." ++ label)
  | _, _ => none

@[simp] theorem set?_none (b : Block) (key : String) : b.set? key none = b := rfl

theorem findSome?_setAttribute_self (key : String) (value : Value) (body : List BodyItem) :
    (setAttribute key value body).findSome? (·.valueAt? key) = some value := by
  induction body with
  | nil => simp [setAttribute, BodyItem.valueAt?]
  | cons item rest ih =>
    cases h : item.hasKey key with
    | true => simp [setAttribute, h, BodyItem.valueAt?]
    | false =>
      simpa [setAttribute, h, List.findSome?_cons, BodyItem.valueAt?_of_hasKey_false h] using ih

end Block

end Groundplan
