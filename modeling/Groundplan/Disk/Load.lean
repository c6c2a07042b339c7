import Groundplan.Compile.Error
import Groundplan.Disk.Basic
import Groundplan.Stored.Diagram

/-!
# Loading diagrams and projects

A file is read as JSON if its name says so, and as YAML otherwise.
-/

namespace Groundplan

/-- What a file holds, judged by its name and content. -/
def loadContent {α : Type} (n : Notations) (read : Reader α) (path : String)
    (content : ByteArray) : Except CompileError α :=
  match String.fromUTF8? content with
  | none => .error (.disk .notText)
  | some text =>
    if Path.isJson path then (n.readJson read text).mapError .json
    else (n.readYaml read text).mapError .yaml

def loadFile {m : Type → Type} [Monad m] {α : Type} (n : Notations) (access : FileAccess m)
    (read : Reader α) (path : String) : m (Except CompileError α) := do
  match ← access.read path with
  | .error e => return .error (.disk e)
  | .ok content => return loadContent n read path content

end Groundplan
