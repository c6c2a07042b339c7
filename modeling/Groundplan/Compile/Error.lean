import Groundplan.Diagram.Basic
import Groundplan.Disk.Basic
import Groundplan.Markup.Notations

/-!
# Errors

What can go wrong while a diagram is read, compiled and written. The faults of single resources end
up among the findings; all others put an end to the compilation.
-/

namespace Groundplan

inductive CompileError where
  | resource (e : ResourceError)
  | inconsistent (e : Inconsistency)
  | disk (e : DiskError)
  | json (e : TextFault)
  | yaml (e : TextFault)
deriving DecidableEq, Repr

namespace CompileError

def message : CompileError → String
  | .resource e => e.message
  | .inconsistent e => e.message
  | .disk e => "IO error: " ++ e.message
  | .json e => "JSON error: " ++ e.message
  | .yaml e => "YAML error: " ++ e.message

/-- What an error of a disk or of a text has been made from. -/
def source? : CompileError → Option String
  | .resource _ | .inconsistent _ => none
  | .disk e => some e.message
  | .json e | .yaml e => some e.message

end CompileError

end Groundplan
