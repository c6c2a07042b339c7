import Groundplan.Config.Block
import Groundplan.Text.Spelled

/-!
# Property values

The values that the properties of a resource take in a diagram. A reference is an expression that
names an attribute of another resource; it is emitted as it is written. An empty string and an empty
list count as unset, at the outermost level only.
-/

namespace Groundplan

/-- The value of a property. -/
inductive Property where
  | bool (b : Bool)
  | number (n : Number)
  | string (s : String)
  | list (items : List Property)
  | reference (expression : String)

namespace Property

instance : Inhabited Property := ⟨.list []⟩

mutual

def same : Property → Property → Bool
  | .bool a, .bool b => a == b
  | .number a, .number b => a == b
  | .string a, .string b => a == b
  | .list a, .list b => sameAll a b
  | .reference a, .reference b => a == b
  | _, _ => false

def sameAll : List Property → List Property → Bool
  | [], [] => true
  | a :: as, b :: bs => same a b && sameAll as bs
  | _, _ => false

end

mutual

theorem same_iff : ∀ {a b : Property}, same a b = true ↔ a = b
  | .bool _, b | .number _, b | .string _, b | .reference _, b => by cases b <;> simp [same]
  | .list as, b => by cases b <;> simp [same, sameAll_iff]

theorem sameAll_iff : ∀ {as bs : List Property}, sameAll as bs = true ↔ as = bs
  | [], bs => by cases bs <;> simp [sameAll]
  | a :: as, bs => by cases bs <;> simp [sameAll, same_iff, sameAll_iff]

end

instance : DecidableEq Property := fun _ _ => decidable_of_iff _ same_iff

/-- Whether the value counts as unset. Blanks in a string are a value. -/
def isBlank : Property → Bool
  | .string s => s.isEmpty
  | .list items => items.isEmpty
  | _ => false

def string? : Property → Option String
  | .string s => some s
  | _ => none

def bool? : Property → Option Bool
  | .bool b => some b
  | _ => none

def reference? : Property → Option String
  | .reference expression => some expression
  | _ => none

mutual

/-- The value as it stands in a block. -/
def toValue : Property → Value
  | .bool b => .bool b
  | .number n => .number n
  | .string s => .string s
  | .list items => .list (toValues items)
  | .reference expression => .expression expression

def toValues : List Property → List Value
  | [] => []
  | item :: items => toValue item :: toValues items

end

mutual

/-- The value shown to a person, with its kind. -/
def describe : Property → String
  | .bool b => "Bool(" ++ (if b then "true" else "false") ++ ")"
  | .number n => "Number(Number(" ++ n.text ++ "))"
  | .string s => "String(" ++ Text.spell s ++ ")"
  | .list items => "List([" ++ ", ".intercalate (describeAll items) ++ "])"
  | .reference expression => "Reference \x7b expression: " ++ Text.spell expression ++ " \x7d"

def describeAll : List Property → List String
  | [] => []
  | item :: items => describe item :: describeAll items

end

end Property

end Groundplan
