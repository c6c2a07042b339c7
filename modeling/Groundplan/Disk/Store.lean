import Groundplan.Compile.Files
import Groundplan.Disk.Basic

/-!
# Writing configurations

The generated files go into one directory, which is made if it is missing. Files are written in the
order of their names; the first failure ends the writing.
-/

namespace Groundplan

/-- Writes files into a directory and returns their paths. -/
def writeFiles {m : Type → Type} [Monad m] (access : FileAccess m) (directory : String) :
    List (String × String) → m (Except DiskError (List String))
  | [] => return .ok []
  | (name, content) :: rest => do
    let path := Path.join directory name
    match ← access.write path content with
    | .error e => return .error e
    | .ok () =>
      match ← writeFiles access directory rest with
      | .error e => return .error e
      | .ok paths => return .ok (path :: paths)

/-- Writes the generated files of a configuration into a directory and returns their paths. -/
def Compiled.writeTo {m : Type → Type} [Monad m] (access : FileAccess m) (c : Compiled)
    (directory : String) : m (Except DiskError (List String)) := do
  match ← access.makeDirectory directory with
  | .error e => return .error e
  | .ok () => writeFiles access directory c.files.entries

end Groundplan
