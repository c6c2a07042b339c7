import Groundplan.Yaml.Input

/-!
# Scalars in YAML text

The four ways to write a scalar: a bare word, a string between single or double quotes, and a block of
lines. All of them may run over several lines, which are joined as they are read.
-/

namespace Groundplan.Yaml

/-- Whether a mark stands at the start of a text that no colon may touch in a flow collection. -/
def startsFlowMark : List Char → Bool
  | [] => false
  | c :: _ => isFlowMark c || c == '?'

/-- The part of a bare word up to the next gap or mark, and what follows. A colon belongs to the word
unless the word ends behind it. -/
def plainChunk (flow : Bool) : List Char → List Char × List Char
  | [] => ([], [])
  | c :: cs =>
    if isGap c || (flow && isFlowMark c) then ([], c :: cs)
    else if c == ':' && (endsWord cs || (flow && startsFlowMark cs)) then ([], c :: cs)
    else
      let (chunk, rest) := plainChunk flow cs
      (c :: chunk, rest)

/-- Whether a bare word may start with the given text. -/
def startsPlain (flow : Bool) : List Char → Bool
  | [] => false
  | '-' :: cs => !endsWord cs
  | '?' :: cs => !flow && !endsWord cs
  | ':' :: cs => !flow && !endsWord cs
  | c :: _ =>
    !isGap c && !isFlowMark c && !(['#', '&', '*', '!', '|', '>', '\'', '"', '%', '@', '\x60'].contains c)

/-- Whether a colon stands where a word can neither end nor go on. -/
def strayColon (flow : Bool) : List Char → Bool
  | ':' :: cs => flow && startsFlowMark cs
  | _ => false

/-- The gap behind a part of a bare word. -/
structure PlainGap where
  blanks : List Char := []
  first : Option Char := none
  more : List Char := []
  line : Nat
  column : Nat

namespace PlainGap

/-- The text that stands for the gap inside the word. -/
def text (g : PlainGap) : List Char :=
  if g.first.isSome then joinLines g.first g.more else g.blanks

end PlainGap

/-- The gap at the start of the text, and what follows; `none` if a tab stands in for indentation. -/
def plainGap (least : Nat) (gap : PlainGap) : List Char → Option (PlainGap × List Char)
  | [] => some (gap, [])
  | c :: cs =>
    if isBreak c then
      let next := { gap with line := gap.line + 1, column := 0 }
      if gap.first.isNone then plainGap least { next with first := some c } cs
      else plainGap least { next with more := gap.more ++ [c] } cs
    else if isBlank c then
      if gap.first.isNone then
        plainGap least { gap with blanks := gap.blanks ++ [c], column := gap.column + 1 } cs
      else if c == '\t' && gap.column < least then none
      else plainGap least { gap with column := gap.column + 1 } cs
    else some (gap, c :: cs)

/-- Goes on with a bare word as long as its lines are indented enough. The gap behind its last part
is passed over, blank lines with tabs included. -/
def plainRest (flow : Bool) (least : Nat) : Nat → List Char → Input → Option (List Char × Input)
  | 0, text, i => some (text, i)
  | fuel + 1, text, i => do
    if strayColon flow i.rest then none
    let (gap, rest) ← plainGap least { line := i.line, column := i.column } i.rest
    let next := { i with rest, line := gap.line, column := gap.column }
    let (chunk, after) := plainChunk flow rest
    if chunk.isEmpty || rest.head? == some '#' || next.atMarker
        || (!flow && gap.first.isSome && gap.column < least) then
      some (text, { next with fresh := gap.first.isSome })
    else
      plainRest flow least fuel (text ++ gap.text ++ chunk)
        { next with rest := after, column := next.column + chunk.length }

/-- A bare word and the position of what follows it. -/
def plain? (flow : Bool) (indent : Int) (i : Input) : Option (List Char × Input) := do
  if !startsPlain flow i.rest then none
  let (chunk, rest) := plainChunk flow i.rest
  plainRest flow (indent + 1).toNat i.rest.length chunk
    { i with rest, column := i.column + chunk.length, fresh := false }

/-- A bare word on a single line. -/
def plainLine? (i : Input) : Option (List Char × Input) := do
  let line := i.rest.takeWhile (!isBreak ·)
  let (text, j) ← plain? false (-1) { i with rest := line }
  return (text, { j with rest := i.rest.drop (j.column - i.column) })

/-- The gap inside a quoted string. -/
inductive QuoteGap where
  | none
  | blanks (text : List Char)
  | lines (first : Option Char) (more : List Char)

namespace QuoteGap

def text : QuoteGap → List Char
  | .none => []
  | .blanks text => text
  | .lines first more => joinLines first more

def add (c : Char) : QuoteGap → QuoteGap
  | .none => if isBreak c then .lines (some c) [] else .blanks [c]
  | .blanks text => if isBreak c then .lines (some c) [] else .blanks (text ++ [c])
  | .lines first more => if isBreak c then .lines first (more ++ [c]) else .lines first more

end QuoteGap

/-- The character that a single letter behind a backslash stands for. -/
def escapedChar? (c : Char) : Option Char :=
  match c with
  | '0' => some '\x00'
  | 'a' => some '\x07'
  | 'b' => some '\x08'
  | 't' | '\t' => some '\t'
  | 'n' => some '\n'
  | 'v' => some '\x0b'
  | 'f' => some '\x0c'
  | 'r' => some '\r'
  | 'e' => some '\x1b'
  | ' ' => some ' '
  | '"' => some '"'
  | '/' => some '/'
  | '\\' => some '\\'
  | 'N' => some '\u0085'
  | '_' => some '\u00a0'
  | 'L' => some '\u2028'
  | 'P' => some '\u2029'
  | _ => none

/-- The number of hexadecimal digits behind a letter that announces them. -/
def codeLength? (c : Char) : Option Nat :=
  match c with
  | 'x' => some 2
  | 'u' => some 4
  | 'U' => some 8
  | _ => none

def hexDigit? (c : Char) : Option Nat :=
  if c.isDigit then some (c.toNat - '0'.toNat)
  else if 'a' ≤ c ∧ c ≤ 'f' then some (c.toNat - 'a'.toNat + 10)
  else if 'A' ≤ c ∧ c ≤ 'F' then some (c.toNat - 'A'.toNat + 10)
  else none

inductive QuoteState where
  | content (gap : QuoteGap)
  /-- Behind a single quote that may be the first of two. -/
  | quote
  | escape
  | code (value : Nat) (missing : Nat)

def Input.past (i : Input) (c : Char) : Input :=
  if isBreak c then { i with line := i.line + 1, column := 0 }
  else { i with column := i.column + 1 }

/-- A string between double quotes, behind the opening one. -/
def doubleQuoted (text : List Char) (state : QuoteState) (i : Input) :
    List Char → Option (List Char × Input)
  | [] => none
  | c :: cs =>
    if i.column == 0 && startsWithMarker (c :: cs) then none
    else
      let next := i.past c
      match state with
      | .escape =>
        if isBreak c then doubleQuoted text (.content (.lines none [])) next cs
        else match escapedChar? c, codeLength? c with
          | some escaped, _ => doubleQuoted (text ++ [escaped]) (.content .none) next cs
          | none, some length => doubleQuoted text (.code 0 length) next cs
          | none, none => none
      | .code value missing =>
        match hexDigit? c with
        | none => none
        | some digit =>
          let value := value * 16 + digit
          if 1 < missing then doubleQuoted text (.code value (missing - 1)) next cs
          else if value.isValidChar then
            doubleQuoted (text ++ [Char.ofNat value]) (.content .none) next cs
          else none
      | .content gap =>
        if isGap c then doubleQuoted text (.content (gap.add c)) next cs
        else if c == '"' then some (text ++ gap.text, { next with rest := cs, fresh := false })
        else if c == '\\' then doubleQuoted (text ++ gap.text) .escape next cs
        else doubleQuoted (text ++ gap.text ++ [c]) (.content .none) next cs
      | .quote => none

/-- A string between single quotes, behind the opening one. A quote inside is written twice. -/
def singleQuoted (text : List Char) (state : QuoteState) (i : Input) :
    List Char → Option (List Char × Input)
  | [] => match state with
    | .quote => some (text, { i with rest := [], fresh := false })
    | _ => none
  | c :: cs =>
    let next := i.past c
    match state with
    | .quote =>
      if c == '\'' then singleQuoted (text ++ ['\'']) (.content .none) next cs
      else some (text, { i with rest := c :: cs, fresh := false })
    | .content gap =>
      if i.column == 0 && startsWithMarker (c :: cs) then none
      else if isGap c then singleQuoted text (.content (gap.add c)) next cs
      else if c == '\'' then singleQuoted (text ++ gap.text) .quote next cs
      else singleQuoted (text ++ gap.text ++ [c]) (.content .none) next cs
    | _ => none

/-- A quoted string and the position behind it. -/
def quoted? (i : Input) : Option (List Char × Input) :=
  match i.rest with
  | '"' :: cs => doubleQuoted [] (.content .none) (i.skip 1) cs
  | '\'' :: cs => singleQuoted [] (.content .none) (i.skip 1) cs
  | _ => none

abbrev Line := List Char × Option Char

def splitLines (current : List Char) : List Char → List Line
  | [] => if current.isEmpty then [] else [(current, none)]
  | c :: cs =>
    if isBreak c then (current, some c) :: splitLines [] cs else splitLines (current ++ [c]) cs

def joinAll (lines : List Line) : List Char := lines.flatMap fun line => line.1 ++ line.2.toList

/-- What becomes of the line breaks at the end of a block. -/
inductive Chomping where
  | strip
  | clip
  | keep
deriving DecidableEq

/-- The header of a block of lines: what becomes of its end, and its indentation if that is given. -/
def blockHeader? : List Char → Option (Chomping × Option Nat × List Char)
  | '+' :: cs => withIndent .keep cs
  | '-' :: cs => withIndent .strip cs
  | c :: '+' :: cs => withDigit .keep c cs ('+' :: cs)
  | c :: '-' :: cs => withDigit .strip c cs ('-' :: cs)
  | c :: cs => withDigit .clip c cs cs
  | [] => some (.clip, none, [])
where
  withIndent (chomping : Chomping) : List Char → Option (Chomping × Option Nat × List Char)
    | '0' :: _ => none
    | c :: cs =>
      if c.isDigit then some (chomping, some (c.toNat - '0'.toNat), cs)
      else some (chomping, none, c :: cs)
    | [] => some (chomping, none, [])
  withDigit (chomping : Chomping) (c : Char) (rest unread : List Char) :
      Option (Chomping × Option Nat × List Char) :=
    if c == '0' then none
    else if c.isDigit then some (chomping, some (c.toNat - '0'.toNat), rest)
    else some (.clip, none, c :: unread)

/-- The indentation of a block of lines, given the least one it may have; `none` if a tab stands in
for indentation. -/
def detectIndent (least widest : Nat) : List Line → Option Nat
  | [] => some (max least widest)
  | (text, ending) :: lines =>
    let spaces := (text.takeWhile (· == ' ')).length
    let widest := max widest spaces
    match text.drop spaces, ending with
    | '\t' :: _, _ => none
    | [], some _ => detectIndent least widest lines
    | _, _ => some (max least widest)

/-- The course of reading a block of lines. -/
structure BlockText where
  text : List Char := []
  /-- The end of the last line with text. -/
  first : Option Char := none
  /-- The ends of the empty lines behind it. -/
  more : List Char := []
  /-- Whether the last line with text starts with a blank. -/
  blank : Bool := false

namespace BlockText

/-- The text with one more line, without its indentation. -/
def addLine (literal : Bool) (b : BlockText) (line : List Char) (ending : Option Char) : BlockText :=
  let blank := (line.head?.map isBlank).getD false
  let joint :=
    if !literal && b.first == some '\n' && !b.blank && !blank then joinLines b.first b.more
    else b.first.toList ++ b.more
  ⟨b.text ++ joint ++ line, ending, [], blank⟩

/-- The text with its end as the header asks for. -/
def finish (b : BlockText) : Chomping → List Char
  | .strip => b.text
  | .clip => b.text ++ b.first.toList
  | .keep => b.text ++ b.first.toList ++ b.more

end BlockText

/-- Reads the lines of a block and returns those that no longer belong to it. -/
def blockLines (literal : Bool) (indent : Nat) (b : BlockText) :
    List Line → Option (BlockText × List Line)
  | [] => some (b, [])
  | (text, ending) :: lines =>
    let spaces := min indent (text.takeWhile (· == ' ')).length
    match text.drop spaces, ending with
    | [], some c => blockLines literal indent { b with more := b.more ++ [c] } lines
    | [], none => some (b, lines)
    | c :: cs, _ =>
      if spaces == indent then blockLines literal indent (b.addLine literal (c :: cs) ending) lines
      else if c == '\t' then none
      else some (b, (text, ending) :: lines)

/-- A block of lines, behind the mark that announces it, inside a collection of the given
indentation. -/
def blockScalar? (literal : Bool) (indent : Int) (i : Input) : Option (List Char × Input) := do
  let (chomping, increment, rest) ← blockHeader? i.rest
  let rest := rest.dropWhile isBlank
  let rest := if rest.head? == some '#' then rest.dropWhile (!isBreak ·) else rest
  let body ← match rest with
    | [] => some []
    | c :: cs => if isBreak c then some cs else none
  let lines := splitLines [] body
  let base := indent.toNat
  let indent ← match increment with
    | some n => some (base + n)
    | none => detectIndent (max (indent + 1).toNat 1) 0 lines
  let (b, left) ← blockLines literal indent {} lines
  return (b.finish chomping, { i with
    rest := joinAll left
    line := i.line + 1 + (lines.length - left.length)
    column := 0
    fresh := true })

end Groundplan.Yaml
