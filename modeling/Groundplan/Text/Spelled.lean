import Groundplan.Text.GraphicTable
import Groundplan.Text.Ranges

/-!
# Spelled-out text

A string shown to a person between quotes, with everything that cannot be seen spelled out: the
common blanks by a letter, every other character without a shape of its own by its number.
-/

namespace Groundplan.Text

/-- Whether a character is told apart by sight. -/
def isGraphic (c : Char) : Bool := !inRanges nonGraphicRanges c.toNat

/-- The number of a character in lowercase hexadecimal without leading zeros. -/
def spellNumber (c : Char) : String :=
  "\\u\x7b" ++ String.ofList (Nat.toDigits 16 c.toNat) ++ "\x7d"

def spellChar (c : Char) : String :=
  match c with
  | '"' => "\\\""
  | '\\' => "\\\\"
  | '\n' => "\\n"
  | '\r' => "\\r"
  | '\t' => "\\t"
  | '\x00' => "\\0"
  | c => if isGraphic c then c.toString else spellNumber c

/-- The string between quotes with its invisible characters spelled out. -/
def spell (s : String) : String :=
  "\"" ++ String.join (s.toList.map spellChar) ++ "\""

/-- A path between quotes; here a single quote is spelled out as well. -/
def spellPath (path : String) : String :=
  "\"" ++ String.join (path.toList.map fun c => if c == '\'' then "\\'" else spellChar c) ++ "\""

/-- A list of strings, each spelled out. -/
def spellAll (items : List String) : String :=
  "[" ++ ", ".intercalate (items.map spell) ++ "]"

end Groundplan.Text
