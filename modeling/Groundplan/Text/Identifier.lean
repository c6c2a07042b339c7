/-!
# Identifiers

Two alphabets: the bare words that may stand for keys, and the labels by which blocks are addressed.
-/

namespace Groundplan.Text

def isLetter (c : Char) : Bool := ('a' ≤ c && c ≤ 'z') || ('A' ≤ c && c ≤ 'Z')

def isDigit (c : Char) : Bool := '0' ≤ c && c ≤ '9'

def isWordStart (c : Char) : Bool := isLetter c || c == '_'

/-- A character with which a bare word may go on. -/
def isWordPart (c : Char) : Bool := isLetter c || isDigit c || c == '_' || c == '-'

/-- Whether a key may stand without quotes. -/
def isBareWord (s : String) : Bool :=
  match s.toList with
  | [] => false
  | c :: cs => isWordStart c && cs.all isWordPart

/-- Letters in lowercase, digits as they are, and an underscore for everything else. -/
def labelChar (c : Char) : Char :=
  if 'A' ≤ c ∧ c ≤ 'Z' then Char.ofNat (c.toNat + 32)
  else if 'a' ≤ c ∧ c ≤ 'z' ∨ isDigit c then c
  else '_'

def isLabelFiller (c : Char) : Bool := isDigit c || c == '_'

/-- The label for a name: its characters mapped, without leading digits and underscores. A name of
which nothing is left gets the label of any resource. -/
def label (name : String) : String :=
  match (name.toList.map labelChar).dropWhile isLabelFiller with
  | [] => "resource"
  | cs => String.ofList cs

end Groundplan.Text
