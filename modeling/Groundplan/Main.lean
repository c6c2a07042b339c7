import Groundplan.CommandLine.Usage
import Groundplan.Markup.BuiltIn

/-!
# The program

The command line on a real disk.
-/

namespace Groundplan

/-- The cause of a failed operation on a real disk. -/
def DiskError.ofReal : IO.Error → DiskError
  | .noFileOrDirectory _ _ _ => .notFound
  | .alreadyExists _ _ _ => .fileExists
  | .inappropriateType _ code _ => if code == 21 then .isADirectory else .notADirectory
  | e => .other (toString e)

/-- An operation on a real disk. -/
def attempt {α : Type} (action : IO α) : IO (Except DiskError α) := do
  match ← action.toBaseIO with
  | .ok value => return .ok value
  | .error e => return .error (.ofReal e)

def realDisk : FileAccess IO where
  read path := attempt (IO.FS.readBinFile path)
  makeDirectory path := attempt (if path == "" then pure () else IO.FS.createDirAll path)
  write path content := attempt (IO.FS.writeFile path content)

end Groundplan

open Groundplan in
/-- Carries out the command line with the built-in catalog. -/
def main (words : List String) : IO UInt32 := do
  let outcome ← runWords .builtIn realDisk Azure.catalog words
  IO.print outcome.output
  IO.eprint outcome.diagnostics
  return outcome.exitCode.toUInt32
