import Groundplan.Markup.Reading
import Groundplan.Yaml.Directive

/-!
# Reading YAML text

A document is read from left to right. What may stand at a position depends on its column and on the
collection around it: entries of a block stand in the same column, and everything that belongs to an
entry is indented more deeply, except that a sequence may stand under the key it belongs to. A node
is a key if a colon follows it on the same line.

Every function takes the number of steps it may make. A step reads at least one character or goes one
level down, so the number that the outermost call allows is never used up.
-/

namespace Groundplan.Yaml

/-- A node and the position behind it. -/
abbrev Parsed := Markup × Input

/-- The names in front of a node. -/
structure Properties where
  anchor : Option String := none
  tag : Option Tag := none

namespace Properties

def isEmpty (p : Properties) : Bool := p.anchor.isNone && p.tag.isNone

end Properties

def emptyWord : Markup := .scalar .null (some "")

/-- A node with the name of the document's own in front of it, if there is one. -/
def named (tag : Option Tag) (node : Markup) : Markup :=
  match tag with
  | some (.own name) => .tagged name node
  | _ => node

/-- A scalar with the names in front of it. The empty name counts only where the scalar is left
out. -/
def scalarNode (p : Properties) (plain : Bool) (text : List Char) : Markup :=
  let tag := if p.tag = some (.own "") ∧ ¬(plain ∧ text.isEmpty) then none else p.tag
  let source := String.ofList text
  named tag (.scalar (resolve tag plain source) (some source))

/-- Remembers a node under its name, if it has one. -/
def finish (p : Properties) (node : Markup) (i : Input) : Parsed :=
  match p.anchor with
  | some name => (node, { i with anchors := (name, node) :: i.anchors })
  | none => (node, i)

/-- Whether a name may end before the given text. -/
def endsName : List Char → Bool
  | [] => true
  | c :: _ => isGap c || ['?', ':', ',', ']', '}', '%', '@', '\x60'].contains c

/-- A name behind the mark that announces it, and the position behind it. -/
def name? (i : Input) : Option (String × Input) :=
  let body := i.rest.drop 1
  let name := body.takeWhile isNameChar
  if name.isEmpty || !endsName (body.drop name.length) then none
  else some (String.ofList name, { i.skip (name.length + 1) with fresh := false })

/-- One of the names in front of a node, unless one of its kind is already there. -/
def property? (flow : Bool) (p : Properties) (i : Input) : Option (Properties × Input) :=
  match i.rest with
  | '&' :: _ =>
    if p.anchor.isSome then none
    else (name? i).map fun (name, next) => ({ p with anchor := some name }, next)
  | '!' :: _ =>
    if p.tag.isSome then none
    else (tag? flow i).map fun (tag, next) => ({ p with tag := some tag }, next)
  | _ => none

/-- The node that a name refers to, and the position behind the name. -/
def alias? (i : Input) : Option Parsed := do
  let (name, next) ← name? i
  let entry ← i.anchors.find? (·.1 == name)
  return (entry.2, next)

/-- The greatest length of a key that is told by the colon behind it. -/
def keyLimit : Nat := 1024

/-- The position behind the colon of a flow collection's key, if the colon stands on its line. -/
def flowColon? (key i : Input) : Option Input :=
  let colon := i.skipGap true
  if colon.rest.head? == some ':' && colon.line == key.line
      && colon.column - key.column ≤ keyLimit then some (colon.skip 1)
  else none

mutual

def flowNode (fuel : Nat) (p : Properties) (i : Input) : Option Parsed :=
  match fuel with
  | 0 => none
  | fuel + 1 =>
    match i.rest with
    | '&' :: _ | '!' :: _ => do
      let (p, next) ← property? true p i
      let next := next.skipGap true
      match next.rest with
      | ',' :: _ | ']' :: _ | '}' :: _ | ':' :: _ => some (finish p (scalarNode p true []) next)
      | _ => flowNode fuel p next
    | '*' :: _ => if p.isEmpty then alias? i else none
    | '[' :: _ => do
      let (items, next) ← flowItems fuel [] (i.skip 1)
      return finish p (named p.tag (.list false items)) next
    | '{' :: _ => do
      let (fields, next) ← flowFields fuel [] (i.skip 1)
      return finish p (named p.tag (.record fields)) next
    | '"' :: _ | '\'' :: _ => do
      let (text, next) ← quoted? i
      return finish p (scalarNode p false text) next
    | _ => do
      let (text, next) ← plain? true (-1) i
      return finish p (scalarNode p true text) next

/-- A key or value behind its mark in a flow collection; it may be left out. -/
def flowValue (fuel : Nat) (i : Input) : Option Parsed :=
  match fuel with
  | 0 => none
  | fuel + 1 =>
    let next := i.skipGap true
    match next.rest with
    | ',' :: _ | ']' :: _ | '}' :: _ | ':' :: _ => some (emptyWord, next)
    | _ => flowNode fuel {} next

/-- A key of a flow collection with its value, if it has one. -/
def flowPair (fuel : Nat) (i : Input) : Option ((Markup × Option Markup) × Input) :=
  match fuel with
  | 0 => none
  | fuel + 1 =>
    match i.rest with
    | '?' :: _ => do
      let (key, next) ← flowValue fuel (i.skip 1)
      match (next.skipGap true).rest with
      | ':' :: _ => do
        let (value, next) ← flowValue fuel ((next.skipGap true).skip 1)
        return ((key, some value), next)
      | _ => return ((key, some emptyWord), next)
    | _ => do
      let (key, next) ← flowNode fuel {} i
      match flowColon? i next with
      | none => return ((key, none), next)
      | some behind => do
        let (value, next) ← flowValue fuel behind
        return ((key, some value), next)

/-- The items of a flow sequence up to its end. An item may be a single pair of key and value. -/
def flowItems (fuel : Nat) (done : List Markup) (i : Input) : Option (List Markup × Input) :=
  match fuel with
  | 0 => none
  | fuel + 1 =>
    let start := i.skipGap true
    if start.atMarker then none
    else match start.rest with
      | ']' :: _ => some (done, { start.skip 1 with fresh := false })
      | _ => do
        let ((key, value), next) ← flowPair fuel start
        let item := match value with
          | some value => .record [(key, value)]
          | none => key
        let next := next.skipGap true
        match next.rest with
        | ',' :: _ => flowItems fuel (done ++ [item]) (next.skip 1)
        | ']' :: _ => some (done ++ [item], { next.skip 1 with fresh := false })
        | _ => none

/-- The fields of a flow mapping up to its end. -/
def flowFields (fuel : Nat) (done : List (Markup × Markup)) (i : Input) :
    Option (List (Markup × Markup) × Input) :=
  match fuel with
  | 0 => none
  | fuel + 1 =>
    let start := i.skipGap true
    if start.atMarker then none
    else match start.rest with
      | '}' :: _ => some (done, { start.skip 1 with fresh := false })
      | _ => do
        let ((key, value), next) ← flowPair fuel start
        let done := done ++ [(key, value.getD emptyWord)]
        let next := next.skipGap true
        match next.rest with
        | ',' :: _ => flowFields fuel done (next.skip 1)
        | '}' :: _ => some (done, { next.skip 1 with fresh := false })
        | _ => none

end

/-- The names in front of a key, on its line. -/
def keyProperties (i : Input) : Properties × Input :=
  match property? false {} i with
  | none => ({}, i)
  | some (p, next) =>
    match property? false p next.skipBlanks with
    | none => (p, next.skipBlanks)
    | some (p, next) => (p, next.skipBlanks)

/-- The node that may be a key, and the position behind it. -/
def keyNode? (fuel : Nat) (p : Properties) (i : Input) : Option Parsed :=
  match i.rest with
  | '*' :: _ => if p.isEmpty then alias? i else none
  | '"' :: _ | '\'' :: _ => do
    let (text, next) ← quoted? i
    return finish p (scalarNode p false text) next
  | '[' :: _ | '{' :: _ => flowNode fuel p i
  | ':' :: cs =>
    if endsWord cs then
      if p.isEmpty then none else some (finish p (scalarNode p true []) i)
    else word
  | _ => word
where
  word : Option Parsed := do
    let (text, next) ← plainLine? i
    return finish p (scalarNode p true text) next

/-- The key at a position and the position behind its colon, if there is one on the same line. -/
def key? (fuel : Nat) (i : Input) : Option Parsed := do
  let (p, start) := keyProperties i
  let (key, next) ← keyNode? fuel p start
  let next := next.skipBlanks
  if next.line == i.line && next.column - i.column ≤ keyLimit && startsWithMark ':' next.rest then
    return (key, { next.skip 1 with fresh := false })
  else none

mutual

/-- The node behind a position that belongs to a collection of the given indentation; it may be left
out. A compact sequence may have the indentation of the collection itself. -/
def blockNode (fuel : Nat) (indent : Int) (compact : Bool) (p : Properties) (i : Input) :
    Option Parsed :=
  match fuel with
  | 0 => none
  | fuel + 1 =>
    let start := i.skipGap false
    if indent < start.indent
        || (compact && start.indent == indent && startsWithMark '-' start.rest) then
      blockContent fuel indent compact p start
    else some (finish p (scalarNode p true []) start)

/-- The node at a position. -/
def blockContent (fuel : Nat) (indent : Int) (compact : Bool) (p : Properties) (i : Input) :
    Option Parsed :=
  match fuel with
  | 0 => none
  | fuel + 1 =>
    if i.fresh && ((key? fuel i).isSome || startsWithMark '?' i.rest) then do
      let (fields, next) ← blockFields fuel i.column [] i
      return finish p (named p.tag (.record fields)) next
    else if startsWithMark '-' i.rest then
      if i.fresh then do
        let (items, next) ← blockItems fuel i.column [] i
        return finish p (named p.tag (.list false items)) next
      else none
    else match i.rest with
      | '&' :: _ | '!' :: _ => do
        let (p, next) ← property? false p i
        blockNode fuel indent compact p next
      | '*' :: _ => if p.isEmpty then alias? i else none
      | '|' :: _ => do
        let (text, next) ← blockScalar? true indent (i.skip 1)
        return finish p (scalarNode p false text) next
      | '>' :: _ => do
        let (text, next) ← blockScalar? false indent (i.skip 1)
        return finish p (scalarNode p false text) next
      | '[' :: _ | '{' :: _ => flowNode fuel p i
      | '"' :: _ | '\'' :: _ => do
        let (text, next) ← quoted? i
        return finish p (scalarNode p false text) next
      | _ => do
        let (text, next) ← plain? false indent i
        return finish p (scalarNode p true text) next

/-- The fields of a mapping whose keys stand in the given column. -/
def blockFields (fuel : Nat) (column : Nat) (done : List (Markup × Markup)) (i : Input) :
    Option (List (Markup × Markup) × Input) :=
  match fuel with
  | 0 => none
  | fuel + 1 =>
    let start := i.skipGap false
    if start.indent < column then some (done, start)
    else if start.column ≠ column || !start.fresh then none
    else if startsWithMark '?' start.rest then do
      let (key, next) ← blockNode fuel column true {} { start.skip 1 with fresh := true }
      let next := next.skipGap false
      if next.indent == column && startsWithMark ':' next.rest then do
        let (value, next) ← blockNode fuel column true {} { next.skip 1 with fresh := true }
        blockFields fuel column (done ++ [(key, value)]) next
      else blockFields fuel column (done ++ [(key, emptyWord)]) next
    else do
      let (key, next) ← key? fuel start
      let (value, next) ← blockNode fuel column true {} next
      blockFields fuel column (done ++ [(key, value)]) next

/-- The items of a sequence whose marks stand in the given column. -/
def blockItems (fuel : Nat) (column : Nat) (done : List Markup) (i : Input) :
    Option (List Markup × Input) :=
  match fuel with
  | 0 => none
  | fuel + 1 =>
    let start := i.skipGap false
    if start.indent == column && start.fresh && startsWithMark '-' start.rest then do
      let (item, next) ← blockNode fuel column false {} { start.skip 1 with fresh := true }
      blockItems fuel column (done ++ [item]) next
    else some (done, start)

end

/-- Whether nothing follows but marks that end the document. -/
def endsDocument (fuel : Nat) (i : Input) : Bool :=
  match fuel with
  | 0 => false
  | fuel + 1 =>
    let next := i.skipGap false
    match next.rest with
    | [] => true
    | '.' :: _ => next.atMarker && endsDocument fuel { next.skip 3 with fresh := false }
    | _ => false

/-- The position at which the content of the document starts. Directives need a marker behind them,
and a document does not start with the marker of its end. -/
def documentStart? (i : Input) : Option Input := do
  let (d, start) ← directives? i.rest.length.succ {} i
  let start := { start with handles := d.handles ++ commonHandles }
  match start.atMarker, start.rest with
  | true, '-' :: _ => some { start.skip 3 with fresh := false }
  | true, _ => none
  | false, _ => if d.isEmpty then some start else none

/-- The greatest number of collections around a node. -/
def depthLimit : Nat := 128

/-- The tree of a text that holds a single document. An empty document is the empty word. -/
def parse? (text : String) : Option Markup := do
  if !text.toList.all isPermitted then none
  let chars := normaliseBreaks (dropEncodingMark text.toList)
  let start ← documentStart? { rest := chars }
  let fuel := 4 * chars.length + 16
  let (root, next) ← blockNode fuel (-1) false {} start
  if endsDocument (chars.length + 1) next && root.depth ≤ depthLimit then return root else none

def readText {α : Type} (read : Reader α) (text : String) : Except Misfit α :=
  match parse? text with
  | some root => read root
  | none => .error .malformed

end Groundplan.Yaml
