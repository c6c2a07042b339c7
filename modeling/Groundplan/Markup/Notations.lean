import Groundplan.Markup.Reading

/-!
# Notations

Stored values are read from text in one of two notations, and reports are printed in one of them.
How that is done is not a matter of this program: what it needs is given by a record.
-/

namespace Groundplan

/-- A fault in a text, and how it is put into words. -/
structure TextFault where
  misfit : Misfit
  message : String
deriving DecidableEq, Repr

/-- The reading of stored text and the printing of reports. -/
structure Notations where
  readJson {α : Type} : Reader α → String → Except TextFault α
  readYaml {α : Type} : Reader α → String → Except TextFault α
  /-- The text of a value, or why it cannot be printed. -/
  printJson : Json → Except String String

end Groundplan
