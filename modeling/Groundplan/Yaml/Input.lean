import Groundplan.Markup.Basic

/-!
# Positions in YAML text

A position knows its line and column, which carry the structure of the text, and whether a block may
start there: at the beginning of a line and after the marks that open an item, but not behind a key.
-/

namespace Groundplan.Yaml

/-- A position, with the text from there on, the nodes named before it and what the handles of names
stand for. -/
structure Input where
  rest : List Char
  line : Nat := 0
  column : Nat := 0
  fresh : Bool := true
  anchors : List (String × Markup) := []
  handles : List (String × String) := []

/-- The characters that end a line; the separators stay as they are when lines are joined. -/
def isBreak (c : Char) : Bool := c == '\n' || c == '\u2028' || c == '\u2029'

def isBlank (c : Char) : Bool := c == ' ' || c == '\t'

def isGap (c : Char) : Bool := isBlank c || isBreak c

/-- Whether a word ends before the given text. -/
def endsWord : List Char → Bool
  | [] => true
  | c :: _ => isGap c

def isFlowMark (c : Char) : Bool := c == ',' || c == '[' || c == ']' || c == '{' || c == '}'

/-- Whether a mark that opens an item or a key stands at the beginning of the text. -/
def startsWithMark (mark : Char) : List Char → Bool
  | c :: rest => c == mark && endsWord rest
  | [] => false

/-- Whether the text starts with a line that parts documents. -/
def startsWithMarker : List Char → Bool
  | '-' :: '-' :: '-' :: rest => endsWord rest
  | '.' :: '.' :: '.' :: rest => endsWord rest
  | _ => false

namespace Input

/-- The position behind some characters of the same line. -/
def skip (i : Input) (count : Nat) : Input :=
  { i with rest := i.rest.drop count, column := i.column + count }

def atMarker (i : Input) : Bool := i.column == 0 && startsWithMarker i.rest

/-- The column as indentation; the end of a document is less indented than everything. -/
def indent (i : Input) : Int :=
  if i.rest.isEmpty || i.atMarker then -1 else i.column

/-- The first position at or behind `i` that is neither blank nor part of a comment, where `rest` is
the text at `i`. Where a block may start, a tab is no blank. -/
def skipGapFrom (flow : Bool) (i : Input) (inComment : Bool) (rest : List Char) : Input :=
  match rest with
  | [] => { i with rest := [] }
  | c :: cs =>
    if isBreak c then
      skipGapFrom flow
        { i with line := i.line + 1, column := 0, fresh := i.fresh || !flow } false cs
    else if inComment || c == ' ' || (c == '\t' && (flow || !i.fresh)) then
      skipGapFrom flow { i with column := i.column + 1 } inComment cs
    else if c == '#' then skipGapFrom flow { i with column := i.column + 1 } true cs
    else { i with rest := c :: cs }

/-- The position of the next token. -/
def skipGap (i : Input) (flow : Bool) : Input := skipGapFrom flow i false i.rest

/-- The position behind blanks of the same line. -/
def skipBlanks (i : Input) : Input := i.skip (i.rest.takeWhile isBlank).length

end Input

/-- What joins two lines: one break becomes a blank, of several the first one is dropped. -/
def joinLines (first : Option Char) (more : List Char) : List Char :=
  match first with
  | some '\n' => if more.isEmpty then [' '] else more
  | some c => c :: more
  | none => more

/-- The text with one kind of line break, and without a mark of its encoding at the front. -/
def normaliseBreaks : List Char → List Char
  | '\r' :: '\n' :: cs => '\n' :: normaliseBreaks cs
  | '\r' :: cs => '\n' :: normaliseBreaks cs
  | '\u0085' :: cs => '\n' :: normaliseBreaks cs
  | c :: cs => c :: normaliseBreaks cs
  | [] => []

def dropEncodingMark : List Char → List Char
  | '\ufeff' :: cs => cs
  | cs => cs

/-- Whether a character may stand in YAML text. -/
def isPermitted (c : Char) : Bool :=
  let n := c.toNat
  n == 0x09 || n == 0x0a || n == 0x0d || (0x20 ≤ n && n ≤ 0x7e) || n == 0x85
    || (0xa0 ≤ n && n ≤ 0xd7ff) || (0xe000 ≤ n && n ≤ 0xfffd) || 0x10000 ≤ n

end Groundplan.Yaml
