import Groundplan.Config.Block
import Groundplan.Text.Identifier
import Groundplan.Text.Quoted

/-!
# Configuration text

The text of blocks and values. Every level is indented by two blanks. Attributes that stand
together, and the entries of one object, share the column of their equals signs; an empty line
separates attributes from a block that follows them, and top-level blocks from each other.

The width of that column is the size in bytes of the longest key as written, while a key is padded
by its number of characters: for keys outside ASCII the column moves to the right.
-/

namespace Groundplan

open Text

def blanks (n : Nat) : String := String.ofList (List.replicate n ' ')

def indent (depth : Nat) : String := blanks (2 * depth)

def renderKey (key : String) : String := if isBareWord key then key else quote key

def keyWidth (key : String) : Nat := (renderKey key).utf8ByteSize

/-- The greatest size of some keys as written. -/
def columnWidth (keys : List String) : Nat := (keys.map keyWidth).foldl max 0

def padKey (width : Nat) (key : String) : String :=
  renderKey key ++ blanks (width - (renderKey key).length)

/-- The line of an attribute or entry whose value has been written. -/
def renderLine (depth width : Nat) (key value : String) : String :=
  indent depth ++ padKey width key ++ " = " ++ value ++ "\n"

namespace Value

mutual

/-- The text of a value; `depth` is the level of the line on which it starts. -/
def render (depth : Nat) : Value → String
  | .string s => quote s
  | .expression e => e
  | .number n => n.text
  | .bool b => if b then "true" else "false"
  | .list items => "[" ++ ", ".intercalate (renderItems depth items) ++ "]"
  | .object [] => "\x7b\x7d"
  | .object entries =>
    "\x7b\n" ++ renderEntries (depth + 1) (columnWidth (entries.map (·.1))) entries
      ++ indent depth ++ "\x7d"

def renderItems (depth : Nat) : List Value → List String
  | [] => []
  | item :: items => render depth item :: renderItems depth items

def renderEntries (depth width : Nat) : List (String × Value) → String
  | [] => ""
  | (key, value) :: entries =>
    renderLine depth width key (render depth value) ++ renderEntries depth width entries

end

end Value

def runWidth (body : List BodyItem) : Nat :=
  columnWidth (((body.map (·.setting?)).takeWhile (·.isSome)).filterMap (·.map (·.1)))

mutual

/-- The text of a block at a level, with its line break. -/
def Block.renderAt (depth : Nat) : Block → String
  | ⟨type, labels, body⟩ =>
    let heading := indent depth ++ type ++ String.join (labels.map fun label => " " ++ quote label)
    match body with
    | [] => heading ++ " \x7b\x7d\n"
    | item :: rest =>
      heading ++ " \x7b\n" ++ renderItems (depth + 1) none (item :: rest) ++ indent depth ++ "\x7d\n"

/-- The text of a body at a level. `column` is the column of the attributes that are being written,
if the item before is one of them. -/
def renderItems (depth : Nat) (column : Option Nat) : List BodyItem → String
  | [] => ""
  | .setting key value :: rest =>
    let width := column.getD (runWidth (.setting key value :: rest))
    renderLine depth width key (value.render depth) ++ renderItems depth (some width) rest
  | .block content :: rest =>
    (if column.isSome then "\n" else "") ++ content.renderAt depth ++ renderItems depth none rest

end

namespace Block

/-- The text of a top-level block. -/
def render (b : Block) : String := b.renderAt 0

/-- The text of top-level blocks, with an empty line between two of them. -/
def renderAll (blocks : List Block) : String := "\n".intercalate (blocks.map render)

end Block

end Groundplan
