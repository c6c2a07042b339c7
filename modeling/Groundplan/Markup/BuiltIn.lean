import Groundplan.Json.Printer
import Groundplan.Json.Reader
import Groundplan.Markup.Notations
import Groundplan.Yaml.Reader

/-!
# The built-in notations

The readers and the printer with which the program runs.
-/

namespace Groundplan

def Misfit.message : Misfit → String
  | .malformed => "the text is not well formed"
  | .unfit => "the text does not have the expected form"

def Misfit.toFault (misfit : Misfit) : TextFault := ⟨misfit, misfit.message⟩

def Notations.builtIn : Notations where
  readJson read text := (Json.readText read text).mapError (·.toFault)
  readYaml read text := (Yaml.readText read text).mapError (·.toFault)
  printJson value := .ok value.pretty

end Groundplan
