import Groundplan.Json.Token
import Groundplan.Markup.Reading

/-!
# Reading JSON text

Words are put together on a stack of open containers. Where a word does not fit, every open
container is closed with a flaw at its end, so that the tree still shows what came before. Containers
nested too deeply, strings with half a character and numbers out of range are well formed but stand
for no value.
-/

namespace Groundplan.Json

/-- A container whose end has not been reached; what it holds so far stands last one first. -/
inductive Frame where
  | items (done : List Markup)
  | fields (done : List (Markup × Markup)) (key : Option Markup)

/-- What may come next in the innermost open container. -/
inductive Expectation where
  | value (orClose : Bool)
  | key (orClose : Bool)
  | colon
  | separator
deriving DecidableEq, Repr

/-- Containers that are nested more deeply than this stand for no value. -/
def depthLimit : Nat := 127

/-- The tree of a container, given the number of containers around it. -/
def closed (around : Nat) (tree : Markup) : Markup :=
  if around < depthLimit then tree
  else if tree.sound then .scalar .unusable none else .flawed

namespace Frame

/-- The container as it stands, closed at the given depth. -/
def close (around : Nat) : Frame → Markup
  | .items done => closed around (.list true done.reverse)
  | .fields done _ => closed around (.record done.reverse)

def add (value : Markup) : Frame → Frame
  | .items done => .items (value :: done)
  | .fields done key => .fields ((key.getD .flawed, value) :: done) none

/-- The container with a flaw at its end. -/
def spoil : Frame → Frame
  | .items done => .items (.flawed :: done)
  | .fields done key => .fields ((key.getD .flawed, .flawed) :: done) none

end Frame

/-- Closes all open containers around a value that is their last one. -/
def closeAll : List Frame → Markup → Markup
  | [], value => value
  | frame :: outer, value => closeAll outer ((frame.add value).close outer.length)

/-- The tree where the text goes wrong inside the given containers. -/
def spoiled : List Frame → Markup
  | [] => .flawed
  | frame :: outer => closeAll outer (frame.spoil.close outer.length)

/-- How far a text has been read. -/
inductive ReadState where
  | reading (stack : List Frame) (expected : Expectation)
  | complete (root : Markup)
  /-- The text went wrong, before or behind the end of its root. -/
  | failed (root : Markup)

namespace ReadState

def deliver (value : Markup) : List Frame → ReadState
  | [] => .complete value
  | frame :: outer => .reading (frame.add value :: outer) .separator

/-- The state after one more word. -/
def step (state : ReadState) (token : Token) : ReadState :=
  match state with
  | .failed root => .failed root
  | .complete root => .failed root
  | .reading stack expected =>
    match expected, token, stack with
    | .value _, .scalar value, stack => deliver (.scalar value none) stack
    | .value _, .openArray, stack => .reading (.items [] :: stack) (.value true)
    | .value _, .openObject, stack => .reading (.fields [] none :: stack) (.key true)
    | .value true, .closeArray, frame :: outer => deliver (frame.close outer.length) outer
    | .key _, .scalar (.text s), .fields done _ :: outer =>
      .reading (.fields done (some (.scalar (.text s) none)) :: outer) .colon
    | .key _, .scalar .unusable, .fields done _ :: outer =>
      .reading (.fields done (some (.scalar .unusable none)) :: outer) .colon
    | .key true, .closeObject, frame :: outer => deliver (frame.close outer.length) outer
    | .colon, .colon, stack => .reading stack (.value false)
    | .separator, .comma, .items done :: outer => .reading (.items done :: outer) (.value false)
    | .separator, .comma, .fields done key :: outer =>
      .reading (.fields done key :: outer) (.key false)
    | .separator, .closeArray, .items done :: outer =>
      deliver ((Frame.items done).close outer.length) outer
    | .separator, .closeObject, .fields done key :: outer =>
      deliver ((Frame.fields done key).close outer.length) outer
    | _, _, stack => .failed (spoiled stack)

end ReadState

/-- The tree of a text, and whether the text is well formed to its end. -/
def parse (text : String) : Markup × Bool :=
  match (tokens text).foldl ReadState.step (.reading [] (.value false)) with
  | .complete root => (root, true)
  | .failed root => (root, false)
  | .reading stack _ => (spoiled stack, false)

/-- Reads a whole text. What comes behind the root counts only once the root has been read. -/
def readText {α : Type} (read : Reader α) (text : String) : Except Misfit α := do
  let (root, clean) := parse text
  let value ← read root
  if clean then return value else throw .malformed

mutual

/-- The JSON value of a tree that stands for one. -/
def ofMarkup? : Markup → Option Json
  | .scalar .null _ => some .null
  | .scalar (.bool b) _ => some (.bool b)
  | .scalar (.number n) _ => some (.number n)
  | .scalar (.text s) _ => some (.string s)
  | .list _ items => (ofMarkupItems? items).map .array
  | .record fields => (ofMarkupFields? fields).map .object
  | _ => none

def ofMarkupItems? : List Markup → Option (List Json)
  | [] => some []
  | item :: items => do return (← ofMarkup? item) :: (← ofMarkupItems? items)

def ofMarkupFields? : List (Markup × Markup) → Option (List (String × Json))
  | [] => some []
  | (key, value) :: fields => do
    let .scalar (.text name) _ := key | none
    return (name, ← ofMarkup? value) :: (← ofMarkupFields? fields)

end

def ofText? (text : String) : Option Json :=
  match parse text with
  | (root, true) => ofMarkup? root
  | (_, false) => none

end Groundplan.Json
