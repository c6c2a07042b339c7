import Groundplan.Config.Block
import Groundplan.Diagram.Property
import Groundplan.Dictionary
import Groundplan.Text.Quoted

/-!
# Declared variables and outputs

Variables and outputs that come up while the blocks of resources are generated. They are collected in
the order in which they come up; a name belongs to whatever was declared under it first.
-/

namespace Groundplan

structure Variable where
  name : String
  type : String
  description : String
  default : Option Property := none
  sensitive : Bool := false
deriving DecidableEq, Inhabited

def Variable.toBlock (v : Variable) : Block :=
  let block := (Block.ofType "variable" [v.name]
    |>.set "type" (.expression v.type)
    |>.set "description" (.string v.description)
    |>.set? "default" (v.default.map (·.toValue)))
  if v.sensitive then block.set "sensitive" (.bool true) else block

structure Output where
  name : String
  value : String
  description : String
  sensitive : Bool := false
deriving DecidableEq, Inhabited

def Output.toBlock (o : Output) : Block :=
  let block := (Block.ofType "output" [o.name]
    |>.set "value" (.expression o.value)
    |>.set "description" (.string o.description))
  if o.sensitive then block.set "sensitive" (.bool true) else block

/-- What a generator may declare besides the blocks it returns. -/
inductive Declaration where
  | ofVariable (v : Variable)
  | ofOutput (o : Output)
deriving DecidableEq

/-- The items with one more at the end, unless its name is taken. -/
def addNamed {α : Type} (name : α → String) (items : List α) (item : α) : List α :=
  if items.any (name · == name item) then items else items ++ [item]

/-- The variables and outputs declared so far. -/
structure Declarations where
  «variables» : List Variable := []
  outputs : List Output := []
deriving DecidableEq, Inhabited

namespace Declarations

def addVariable (d : Declarations) (v : Variable) : Declarations :=
  { d with «variables» := addNamed (·.name) d.variables v }

def addOutput (d : Declarations) (o : Output) : Declarations :=
  { d with outputs := addNamed (·.name) d.outputs o }

def add (d : Declarations) : Declaration → Declarations
  | .ofVariable v => d.addVariable v
  | .ofOutput o => d.addOutput o

def addAll (d : Declarations) (declared : List Declaration) : Declarations :=
  declared.foldl add d

/-- A point in the course of collecting. -/
structure Mark where
  «variables» : Nat
  outputs : Nat
deriving DecidableEq, Repr

def mark (d : Declarations) : Mark := ⟨d.variables.length, d.outputs.length⟩

/-- What had been declared at a mark that was set earlier. -/
def rollback (d : Declarations) (m : Mark) : Declarations :=
  ⟨d.variables.take m.variables, d.outputs.take m.outputs⟩

end Declarations

theorem exists_append_addNamed {α : Type} (name : α → String) (items : List α) (item : α) :
    ∃ added, addNamed name items item = items ++ added := by
  unfold addNamed
  split
  · exact ⟨[], by simp⟩
  · exact ⟨[item], rfl⟩

namespace Variable

/-- The line that gives a variable its value in a project, unless that value is empty or missing. -/
def valueLine? (values : Dictionary String) (v : Variable) : Option String :=
  ((values.get? v.name).filter (!·.isEmpty)).map fun value => v.name ++ " = " ++ Text.quote value

/-- The file of variable values, if there is a value to write. -/
def valueFile? (declared : List Variable) (values : Dictionary String) : Option String :=
  match declared.filterMap (·.valueLine? values) with
  | [] => none
  | lines => some ("\n".intercalate lines ++ "\n")

end Variable

end Groundplan
