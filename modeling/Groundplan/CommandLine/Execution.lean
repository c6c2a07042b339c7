import Groundplan.Azure.Catalog
import Groundplan.CommandLine.Report
import Groundplan.Disk.Load
import Groundplan.Disk.Store

/-!
# Execution

What a command does and how it ends.
-/

namespace Groundplan

/-- How a command ends. -/
structure Outcome where
  exitCode : Nat := ExitCode.success
  output : String := ""
  diagnostics : String := ""
deriving DecidableEq, Repr, Inhabited

/-- The end of a command that has failed after saying something. -/
def Failure.outcome (f : Failure) (output diagnostics : String := "") : Outcome where
  exitCode := f.exitCode
  output := output
  diagnostics := diagnostics ++ "❌ Error: " ++ f.message ++ "\n"

/-- The end of a command that has nothing to do but to say something. -/
def Outcome.ofOutput : Except Failure String → Outcome
  | .ok output => { output }
  | .error failure => failure.outcome

namespace Command

variable {m : Type → Type} [Monad m]

/-- The diagram to compile, with the settings of another project if one is given. -/
def loadDiagram (n : Notations) (access : FileAccess m) (snapshot : String)
    (project : Option String) : m (Except Failure Diagram) := do
  match ← loadFile n access Diagram.read snapshot with
  | .error e =>
    return .error (.during ("Failed to read diagram snapshot " ++ Text.spellPath snapshot) e)
  | .ok diagram =>
    match project with
    | none => return .ok diagram
    | some path =>
      match ← loadFile n access Project.read path with
      | .error e =>
        return .error (.during ("Failed to read project configuration " ++ Text.spellPath path) e)
      | .ok project => return .ok { diagram with project }

/-- Delivers a configuration: into a directory if one is given. -/
def deliver (access : FileAccess m) (compiled : Compiled) :
    Option String → m (Except Failure Delivery)
  | none => return .ok .document
  | some directory => do
    match ← compiled.writeTo access directory with
    | .error e =>
      return .error
        (.during ("Failed to write Terraform files to " ++ Text.spellPath directory) (.disk e))
    | .ok paths => return .ok (.files paths)

/-- The end of a compilation that has been delivered. Error findings make a failure of it, but only
once everything else has been said. -/
def compilationOutcome (n : Notations) (compiled : Compiled) (delivery : Delivery)
    (format : Format) : Outcome :=
  match compiled.report n delivery format with
  | .error failure => failure.outcome
  | .ok (output, diagnostics) =>
    match Finding.count .error compiled.findings with
    | 0 => { output, diagnostics }
    | count => (Failure.errorFindings count).outcome output diagnostics

def compileStored (n : Notations) (access : FileAccess m) (catalog : Catalog) (snapshot : String)
    (project out : Option String) (format : Format) : m Outcome := do
  match ← loadDiagram n access snapshot project with
  | .error failure => return failure.outcome
  | .ok diagram =>
    match diagram.compile catalog with
    | .error e => return (Failure.during "Failed to compile diagram" (.inconsistent e)).outcome
    | .ok compiled =>
      match ← deliver access compiled out with
      | .error failure => return failure.outcome
      | .ok delivery => return compilationOutcome n compiled delivery format

def run (n : Notations) (access : FileAccess m) (catalog : Catalog) : Command → m Outcome
  | .compile snapshot project out format =>
    compileStored n access catalog snapshot project out format
  | .types provider format => return .ofOutput (catalog.listTypes n provider format)
  | .rules source target format => return .ofOutput (catalog.listRules n source target format)

end Command

end Groundplan
