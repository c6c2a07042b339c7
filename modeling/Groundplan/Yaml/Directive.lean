import Groundplan.Yaml.Resolve

/-!
# Directives in front of a YAML document

Lines that start with a percent sign: one may give the version of the format, others declare what the
handles of names stand for. The document that they belong to starts with a marker.
-/

namespace Groundplan.Yaml

/-- What the directives in front of a document say. -/
structure Directives where
  /-- Whether a version is given. -/
  versioned : Bool := false
  handles : List (String × String) := []

namespace Directives

def isEmpty (d : Directives) : Bool := !d.versioned && d.handles.isEmpty

end Directives

/-- The greatest number of digits of a part of the version. -/
def versionDigitLimit : Nat := 9

/-- The digits at the start of a text as a number, and what follows. -/
def versionPart? (cs : List Char) : Option (Nat × List Char) :=
  let digits := cs.takeWhile (·.isDigit)
  if digits.length ≤ versionDigitLimit then
    (natural? 10 digits).map fun n => (n, cs.drop digits.length)
  else none

/-- What follows a version that can be read. -/
def afterVersion? (cs : List Char) : Option (List Char) :=
  match versionPart? cs with
  | some (1, '.' :: rest) => match versionPart? rest with
    | some (1, rest) | some (2, rest) => some rest
    | _ => none
  | _ => none

/-- A declared handle, what it stands for, and what follows. -/
def handle? : List Char → Option ((String × String) × List Char)
  | '!' :: cs => do
    let name := cs.takeWhile isNameChar
    let rest := cs.drop name.length
    let closed := rest.head? == some '!'
    if !closed && !name.isEmpty then none
    let rest := if closed then rest.drop 1 else rest
    let stem := (rest.dropWhile isBlank).takeWhile (isTagChar true)
    if !(rest.head?.map isBlank).getD false || stem.isEmpty then none
    let after := (rest.dropWhile isBlank).drop stem.length
    if !endsWord after then none
    return ((String.ofList ('!' :: name ++ if closed then ['!'] else []), ← unescape? stem), after)
  | _ => none

/-- Whether nothing but a comment follows on a line. -/
def endsLine (cs : List Char) : Bool :=
  match cs.dropWhile isBlank with
  | [] => true
  | c :: _ => c == '#'

namespace Directives

/-- The directives with one more line, given without its percent sign. Neither the version nor a
handle is given twice. -/
def add? (d : Directives) (line : List Char) : Option Directives := do
  let word := line.takeWhile isNameChar
  let rest := line.drop word.length
  if !endsWord rest then none
  match String.ofList word with
  | "YAML" => do
    let after ← afterVersion? (rest.dropWhile isBlank)
    if d.versioned || !endsLine after then none
    return { d with versioned := true }
  | "TAG" => do
    let (entry, after) ← handle? (rest.dropWhile isBlank)
    if (d.handles.lookup entry.1).isSome || !endsLine after then none
    return { d with handles := entry :: d.handles }
  | _ => none

end Directives

/-- The directives in front of a document, and the position behind them. -/
def directives? (fuel : Nat) (d : Directives) (i : Input) : Option (Directives × Input) :=
  match fuel with
  | 0 => none
  | fuel + 1 =>
    let start := i.skipGap false
    match start.rest with
    | '%' :: cs =>
      let line := cs.takeWhile (!isBreak ·)
      if start.column == 0 then do
        directives? fuel (← d.add? line) (start.skip (line.length + 1))
      else none
    | _ => some (d, start)

end Groundplan.Yaml
