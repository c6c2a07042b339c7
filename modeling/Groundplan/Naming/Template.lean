import Groundplan.Diagram.Basic
import Groundplan.Text.Identifier

/-!
# Naming templates

A template is split once, from left to right, into literal text and tokens: a token is an identifier
in braces. Each piece is then replaced by itself, so text that comes in through a name or a field is
never looked at again.
-/

namespace Groundplan

open Text

inductive TemplatePiece where
  | literal (text : List Char)
  | token (name : List Char)
deriving DecidableEq, Repr

namespace TemplatePiece

def source : TemplatePiece → List Char
  | .literal text => text
  | .token name => '{' :: (name ++ ['}'])

@[simp] theorem source_literal (text : List Char) : (literal text).source = text := rfl

@[simp] theorem source_token (name : List Char) :
    (token name).source = '{' :: (name ++ ['}']) := rfl

end TemplatePiece

/-- Whether a token of which the given characters have been read, last one first, may go on with
another one. -/
def extendsToken (reversed : List Char) (c : Char) : Bool :=
  isLetter c || c == '_' || (isDigit c && !reversed.isEmpty)

/-- The pieces of a template. `opened` holds what has been read since an opening brace, last
character first, as long as it may still become a token. -/
def templatePieces (opened : Option (List Char)) : List Char → List TemplatePiece
  | [] => match opened with
    | none => []
    | some reversed => [.literal ('{' :: reversed.reverse)]
  | c :: cs => match opened with
    | none => if c = '{' then templatePieces (some []) cs else .literal [c] :: templatePieces none cs
    | some reversed =>
      if extendsToken reversed c then templatePieces (some (c :: reversed)) cs
      else if c = '}' ∧ reversed ≠ [] then .token reversed.reverse :: templatePieces none cs
      else if c = '{' then .literal ('{' :: reversed.reverse) :: templatePieces (some []) cs
      else .literal ('{' :: (reversed.reverse ++ [c])) :: templatePieces none cs

namespace Naming

def tokenValue? (n : Naming) (name : String) (token : List Char) : Option String :=
  if token = "name".toList then some name
  else if token = "env".toList then n.env
  else if token = "region".toList then n.region
  else if token = "org".toList then n.org
  else none

/-- What a piece of the template becomes. A token without a value stands for itself. -/
def expandPiece (n : Naming) (name : String) : TemplatePiece → List Char
  | .literal text => text
  | .token token => match n.tokenValue? name token with
    | some value => value.toList
    | none => (TemplatePiece.token token).source

/-- The template filled in for a resource of the given name. -/
def expand (n : Naming) (name : String) : String :=
  String.ofList ((templatePieces none n.template.toList).flatMap (n.expandPiece name))

end Naming

end Groundplan
