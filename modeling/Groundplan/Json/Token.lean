import Groundplan.Decimal.NumberText
import Groundplan.Markup.Basic

/-!
# JSON tokens

The words of JSON text, found by an automaton that takes one character at a time. Text that makes no
word ends the tokens with a flaw.
-/

namespace Groundplan.Json

open Decimal

/-- A word of JSON text. -/
inductive Token where
  | openArray
  | closeArray
  | openObject
  | closeObject
  | comma
  | colon
  | scalar (value : Scalar)
  /-- Text that makes no word; nothing comes after it. -/
  | flaw
deriving DecidableEq, Repr

inductive NumeralPart where
  | sign
  | zero
  | whole
  | point
  | fraction
  | mark
  | powerSign
  | power
deriving DecidableEq, Repr

namespace NumeralPart

/-- Whether a numeral may end here. -/
def complete : NumeralPart → Bool
  | .zero | .whole | .fraction | .power => true
  | _ => false

/-- The part reached by one more character, if it goes on with the numeral. A zero in front allows
no further digit. -/
def next (part : NumeralPart) (c : Char) : Option NumeralPart :=
  match part with
  | .sign => if c = '0' then some .zero else if c.isDigit then some .whole else none
  | .zero => after c
  | .whole => if c.isDigit then some .whole else after c
  | .point => if c.isDigit then some .fraction else none
  | .fraction => if c.isDigit then some .fraction else exponent c
  | .mark =>
    if c = '+' ∨ c = '-' then some .powerSign else if c.isDigit then some .power else none
  | .powerSign => if c.isDigit then some .power else none
  | .power => if c.isDigit then some .power else none
where
  exponent (c : Char) : Option NumeralPart := if c = 'e' ∨ c = 'E' then some .mark else none
  after (c : Char) : Option NumeralPart := if c = '.' then some .point else exponent c

end NumeralPart

/-- The exponent written in the given characters, which may start with a sign. -/
def exponentValue : List Char → Int
  | '-' :: digits => -(ofDigits digits : Int)
  | '+' :: digits => ofDigits digits
  | digits => ofDigits digits

def numeralOf (chars : List Char) : Numeral :=
  let negative := chars.head? == some '-'
  let body := if negative then chars.drop 1 else chars
  let mantissa := body.takeWhile fun c => c != 'e' && c != 'E'
  let exponent := match body.drop mantissa.length with
    | [] => none
    | _ :: power => some (exponentValue power)
  let whole := mantissa.takeWhile (· != '.')
  let fraction := match mantissa.drop whole.length with
    | [] => none
    | _ :: digits => some digits
  ⟨negative, whole, fraction, exponent⟩

/-- The scalar of a complete numeral; one out of range stands for no value. -/
def numeralScalar (chars : List Char) : Scalar :=
  match (numeralOf chars).number? with
  | some n => .number n
  | none => .unusable

def isHighSurrogate (unit : Nat) : Bool := 0xd800 ≤ unit && unit < 0xdc00

def isLowSurrogate (unit : Nat) : Bool := 0xdc00 ≤ unit && unit < 0xe000

/-- Characters from code units: two surrogates in the right order make one character, any other
surrogate makes none. -/
def joinUnits : List Nat → Option (List Char)
  | [] => some []
  | high :: low :: units =>
    if isHighSurrogate high then
      if isLowSurrogate low then
        (joinUnits units).map (Char.ofNat (0x10000 + (high - 0xd800) * 0x400 + (low - 0xdc00)) :: ·)
      else none
    else if isLowSurrogate high then none
    else (joinUnits (low :: units)).map (Char.ofNat high :: ·)
  | [unit] =>
    if isHighSurrogate unit || isLowSurrogate unit then none else some [Char.ofNat unit]

/-- The scalar of a string given by its code units, last one first. -/
def unitsScalar (reversed : List Nat) : Scalar :=
  match joinUnits reversed.reverse with
  | some chars => .text (String.ofList chars)
  | none => .unusable

/-- The character that a single letter behind a backslash stands for. -/
def escapedUnit (c : Char) : Option Nat :=
  match c with
  | '"' => some 0x22
  | '\\' => some 0x5c
  | '/' => some 0x2f
  | 'b' => some 0x08
  | 'f' => some 0x0c
  | 'n' => some 0x0a
  | 'r' => some 0x0d
  | 't' => some 0x09
  | _ => none

def hexValue (c : Char) : Option Nat :=
  if c.isDigit then some (c.toNat - '0'.toNat)
  else if 'a' ≤ c ∧ c ≤ 'f' then some (c.toNat - 'a'.toNat + 10)
  else if 'A' ≤ c ∧ c ≤ 'F' then some (c.toNat - 'A'.toNat + 10)
  else none

/-- The state between two characters. -/
inductive LexState where
  | between
  /-- Inside a literal word, of which the given characters are still to come. -/
  | word (rest : List Char) (value : Scalar)
  | numeral (part : NumeralPart) (reversed : List Char)
  | string (units : List Nat)
  | escape (units : List Nat)
  /-- Inside a code unit of which some digits are still to come. -/
  | codeUnit (units : List Nat) (value : Nat) (missing : Nat)
  | stopped

namespace LexState

/-- The words completed by a character, and the state after it. -/
abbrev Step := List Token × LexState

def stop : Step := ([.flaw], .stopped)

/-- A character between two words. -/
def start (c : Char) : Step :=
  match c with
  | ' ' | '\n' | '\r' | '\t' => ([], .between)
  | '[' => ([.openArray], .between)
  | ']' => ([.closeArray], .between)
  | '{' => ([.openObject], .between)
  | '}' => ([.closeObject], .between)
  | ',' => ([.comma], .between)
  | ':' => ([.colon], .between)
  | '"' => ([], .string [])
  | '-' => ([], .numeral .sign [c])
  | '0' => ([], .numeral .zero [c])
  | 't' => ([], .word ['r', 'u', 'e'] (.bool true))
  | 'f' => ([], .word ['a', 'l', 's', 'e'] (.bool false))
  | 'n' => ([], .word ['u', 'l', 'l'] .null)
  | c => if c.isDigit then ([], .numeral .whole [c]) else stop

def step (state : LexState) (c : Char) : Step :=
  match state with
  | .between => start c
  | .word [] value => let (tokens, next) := start c; (.scalar value :: tokens, next)
  | .word (expected :: rest) value =>
    if c = expected then
      if rest.isEmpty then ([.scalar value], .between) else ([], .word rest value)
    else stop
  | .numeral part reversed =>
    match part.next c with
    | some part => ([], .numeral part (c :: reversed))
    | none =>
      if !part.complete || (part = .zero && c.isDigit) then stop
      else
        let (tokens, next) := start c
        (.scalar (numeralScalar reversed.reverse) :: tokens, next)
  | .string units =>
    if c = '"' then ([.scalar (unitsScalar units)], .between)
    else if c = '\\' then ([], .escape units)
    else if c.toNat < 0x20 then stop
    else ([], .string (c.toNat :: units))
  | .escape units =>
    if c = 'u' then ([], .codeUnit units 0 4)
    else match escapedUnit c with
      | some unit => ([], .string (unit :: units))
      | none => stop
  | .codeUnit units value missing =>
    match hexValue c with
    | none => stop
    | some digit =>
      let value := value * 16 + digit
      if missing ≤ 1 then ([], .string (value :: units)) else ([], .codeUnit units value (missing - 1))
  | .stopped => ([], .stopped)

/-- The words completed by the end of the text. -/
def finish : LexState → List Token
  | .between | .stopped => []
  | .numeral part reversed =>
    if part.complete then [.scalar (numeralScalar reversed.reverse)] else [.flaw]
  | _ => [.flaw]

end LexState

/-- Reads a character; the words read before come with the last one first. -/
def readChar (read : List Token × LexState) (c : Char) : List Token × LexState :=
  let stepped := read.2.step c
  (stepped.1.reverse ++ read.1, stepped.2)

def tokens (text : String) : List Token :=
  let read := text.toList.foldl readChar ([], .between)
  read.1.reverse ++ read.2.finish

end Groundplan.Json
