import Groundplan.Dictionary
import Groundplan.Markup.Basic

/-!
# Reading markup trees

Readers for the shapes that stored values take: scalars, choices among names, lists, dictionaries
and records. Every reader walks its tree in the order of the text and stops at the first fault.
-/

namespace Groundplan

/-- Why a text does not give a value. -/
inductive Misfit where
  /-- The text is not well formed. -/
  | malformed
  /-- The text is well formed up to here, but stands for something else. -/
  | unfit
deriving DecidableEq, Repr

/-- What a reader makes of a tree. -/
abbrev Reader (α : Type) := Markup → Except Misfit α

namespace Markup

variable {α σ : Type}

/-- The fault of a tree that none of the expected shapes fits. -/
def misfit : Markup → Misfit
  | .flawed => .malformed
  | .scalar .unusable none => .malformed
  | _ => .unfit

/-- A string, or the source of any scalar that has one. -/
def text : Reader String
  | .scalar (.text s) _ => .ok s
  | .scalar _ (some source) => .ok source
  | .tagged _ content => content.text
  | other => .error other.misfit

def flag : Reader Bool
  | .scalar (.bool b) _ => .ok b
  | .tagged _ content => content.flag
  | other => .error other.misfit

/-- An integer of 64 bits without a sign. -/
def natural : Reader Nat
  | .scalar (.number (.integer n)) _ => if 0 ≤ n then .ok n.toNat else .error .unfit
  | other => .error other.misfit

/-- A double; an integer stands for the nearest one. -/
def real : Reader Decimal.Binary64
  | .scalar (.number (.float x)) _ => .ok x
  | .scalar (.number (.integer n)) _ =>
    match Decimal.Magnitude.ofRatio? n.natAbs 1 with
    | some magnitude => .ok ⟨n < 0, magnitude⟩
    | none => .error .unfit
  | other => .error other.misfit

/-- A value that may be absent. -/
def nullable (read : Reader α) : Reader (Option α)
  | .scalar .null _ => .ok none
  | other => some <$> read other

/-- Whether the tree is the empty word, which also stands for an empty list or record. -/
def isEmptyWord : Markup → Bool
  | .scalar .null (some "") => true
  | _ => false

def items (read : Reader α) : Reader (List α)
  | .list _ content => content.mapM read
  | .tagged _ content => content.items read
  | other => if other.isEmptyWord then .ok [] else .error other.misfit

def fields : Reader (List (Markup × Markup))
  | .record content => .ok content
  | .tagged _ content => content.fields
  | other => if other.isEmptyWord then .ok [] else .error other.misfit

/-- A dictionary; a key that is repeated keeps its last value. -/
def dictionary (read : Reader α) : Reader (Dictionary α) := fun markup => do
  let content ← markup.fields
  content.foldlM (fun d entry => do return d.insert (← entry.1.text) (← read entry.2)) .empty

def pick (options : List (String × α)) (name : String) : Except Misfit α :=
  match options.find? (·.1 == name) with
  | some option => .ok option.2
  | none => .error .unfit

/-- Nothing, written as a bare null. -/
def nothing : Reader Unit
  | .scalar .null none => .ok ()
  | other => .error other.misfit

/-- One of several named options: its name, a record of that name alone with nothing in it, or
nothing with the name in front. -/
def choice (options : List (String × α)) : Reader α
  | .scalar (.text s) _ => pick options s
  | .scalar _ (some source) => pick options source
  | .record ((key, value) :: rest) => do
    let option ← pick options (← key.text)
    value.nothing
    if rest.isEmpty then return option else throw .malformed
  | .tagged tag (.scalar .null (some _)) => pick options tag
  | .tagged _ _ => .error .unfit
  | _ => .error .malformed

end Markup

/-- A field of a record type: how its value is read into a record under construction. -/
structure Field (σ : Type) where
  name : String
  mandatory : Bool
  read : Markup → σ → Except Misfit σ

namespace Field

variable {α σ : Type}

def required (name : String) (read : Reader α) (set : α → σ → σ) : Field σ :=
  ⟨name, true, fun markup record => return set (← read markup) record⟩

/-- A field that keeps its default when it is not given. -/
def optional (name : String) (read : Reader α) (set : α → σ → σ) : Field σ :=
  ⟨name, false, fun markup record => return set (← read markup) record⟩

end Field

namespace Markup

variable {σ : Type}

/-- Reads fields in the order of the text. Fields of unknown name are passed over, a field given
twice is a fault, and so is a required field that has not been seen at the end. -/
def readFields (known : List (Field σ)) :
    List String → σ → List (Markup × Markup) → Except Misfit σ
  | seen, built, [] =>
    if known.any fun field => field.mandatory && !seen.contains field.name then .error .unfit
    else .ok built
  | seen, built, (key, value) :: rest => do
    let name ← key.text
    match known.find? (·.name == name) with
    | none => if value.sound then readFields known seen built rest else throw .malformed
    | some field =>
      if seen.contains name then throw .unfit
      else readFields known (name :: seen) (← field.read value built) rest

/-- Reads the fields of a record from a list that gives them in order. -/
def readPositions : List (Field σ) → σ → List Markup → Except Misfit σ
  | [], built, [] => .ok built
  | [], _, _ :: _ => .error .malformed
  | field :: known, built, [] =>
    if field.mandatory then .error .unfit else readPositions known built []
  | field :: known, built, item :: rest => do
    readPositions known (← field.read item built) rest

def readRecord (known : List (Field σ)) (start : σ) : Reader σ
  | .list true content => readPositions known start content
  | other => do readFields known [] start (← other.fields)

end Markup

end Groundplan
