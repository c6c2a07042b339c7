import Groundplan.CommandLine.Execution

/-!
# Usage

What is said about the program itself, and how a command line ends that asks for no command.
-/

namespace Groundplan

def programName : String := "terra"

def programVersion : String := "0.1.0"

/-- The line with the version; a command shares the version of the program. -/
def versionLine (command : Option CommandName) : String :=
  programName ++ (command.elim "" fun c => "-" ++ c.name) ++ " " ++ programVersion ++ "\n"

/-- The commands and their options. -/
def usage : String := unlines
  ["Compiles infrastructure diagrams to Terraform configuration.",
   "",
   "Usage:",
   "  " ++ programName ++ " compile <SNAPSHOT> [-p <PROJECT>] [-o <OUT>] [--format text|json]",
   "  " ++ programName ++ " types [-p <PROVIDER>] [--format text|json]",
   "  " ++ programName ++ " rules [--source <TYPE>] [--target <TYPE>] [--format text|json]",
   "",
   "Everywhere: -v/--verbose, -q/--quiet, -h/--help, -V/--version",
   "",
   "Exit codes: 0 success, 1 general error, 2 invalid arguments or input, 3 error findings, 5 disk error"]

/-- How a command line ends that asks for no command. -/
def Refusal.outcome : Refusal → Outcome
  | .help => { output := usage }
  | .version command => { output := versionLine command }
  | .mistake m =>
    { exitCode := ExitCode.invalidInput, diagnostics := "error: " ++ m.message ++ "\n\n" ++ usage }

/-- Carries out a command line. -/
def runWords {m : Type → Type} [Monad m] (n : Notations) (access : FileAccess m)
    (catalog : Catalog) (words : List String) : m Outcome :=
  match Command.ofArguments words with
  | .error refusal => return refusal.outcome
  | .ok command => command.run n access catalog

end Groundplan
