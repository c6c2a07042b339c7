import Groundplan.Yaml.Scalar

/-!
# Names in front of YAML nodes

A name says what a node stands for. It is written out between angle brackets, or as a handle and a
suffix, where the handle stands for the first part of the name. Characters of a name may be given by
the octets that encode them, each behind a percent sign.
-/

namespace Groundplan.Yaml

/-- The names in front of a node that say what it stands for. -/
inductive Tag where
  /-- A name of the core schema. -/
  | core (name : String)
  /-- A name of the document's own; the empty one makes no statement about a scalar. -/
  | own (name : String)
  /-- Any other name, which has no bearing on the value. -/
  | foreign
deriving DecidableEq, Repr

/-- The first part of the names of the core schema. -/
def coreStem : String := "tag:yaml.org,2002:"

/-- What the handles stand for that need no declaration. -/
def commonHandles : List (String × String) := [("!", "!"), ("!!", coreStem)]

namespace Tag

def ofName (name : String) : Tag :=
  if name.startsWith coreStem then .core (name.drop coreStem.length).toString
  else match name.toList with
    | '!' :: rest => .own (String.ofList rest)
    | _ => .foreign

end Tag

def isNameChar (c : Char) : Bool := c.isAlphanum || c == '_' || c == '-'

/-- The characters of names; those that are marks of flow collections too stand only in a name
that is written out. -/
def isTagChar (whole : Bool) (c : Char) : Bool :=
  isNameChar c || ";/?:@&=+$.%!~*'()".toList.contains c || (whole && [',', '[', ']'].contains c)

/-- The octets of a name, whose characters are below 128. -/
def octets? : List Char → Option (List UInt8)
  | '%' :: a :: b :: cs => do
    let high ← hexDigit? a
    let low ← hexDigit? b
    let rest ← octets? cs
    return (16 * high + low).toUInt8 :: rest
  | '%' :: _ => none
  | c :: cs => (octets? cs).map (c.toNat.toUInt8 :: ·)
  | [] => some []

/-- A part of a name, with the characters that its octets encode. -/
def unescape? (part : List Char) : Option String :=
  (octets? part).bind fun octets => String.fromUTF8? ⟨octets.toArray⟩

/-- The name behind an exclamation mark, with the number of characters that it takes. -/
def tagName? (handles : List (String × String)) : List Char → Option (String × Nat)
  | '<' :: cs => do
    let part := cs.takeWhile (isTagChar true)
    if part.isEmpty || (cs.drop part.length).head? ≠ some '>' then none
    return (← unescape? part, part.length + 2)
  | cs =>
    let handle := cs.takeWhile isNameChar
    match cs.drop handle.length with
    | '!' :: rest => do
      let part := rest.takeWhile (isTagChar false)
      if part.isEmpty then none
      let stem ← handles.lookup (String.ofList ('!' :: handle ++ ['!']))
      return (stem ++ (← unescape? part), handle.length + 1 + part.length)
    | _ => do
      let part := cs.takeWhile (isTagChar false)
      let stem ← if part.isEmpty then some "!" else handles.lookup "!"
      return (stem ++ (← unescape? part), part.length)

/-- The tag at an exclamation mark, and the position behind it. A gap follows it, or a comma inside
a flow collection. -/
def tag? (flow : Bool) (i : Input) : Option (Tag × Input) := do
  let (name, length) ← tagName? i.handles (i.rest.drop 1)
  let next := { i.skip (length + 1) with fresh := false }
  if endsWord next.rest || (flow && next.rest.head? == some ',') then
    return (Tag.ofName name, next)
  else none

end Groundplan.Yaml
