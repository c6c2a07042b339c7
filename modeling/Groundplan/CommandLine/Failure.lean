import Groundplan.Compile.Error
import Groundplan.Text.Lowercase

/-!
# Failures

How a command fails: with an error, around which stands what was being done. The exit code follows
from the error, however much stands around it. If the error is none of the known ones, its code is
taken from the words with which the failure begins.
-/

namespace Groundplan

namespace ExitCode

def success : Nat := 0

def general : Nat := 1

def invalidInput : Nat := 2

def errorFindings : Nat := 3

def disk : Nat := 5

end ExitCode

/-- Whether some characters stand next to each other in a text. -/
def Text.occursIn (part : List Char) : List Char → Bool
  | [] => part.isEmpty
  | c :: cs => part.isPrefixOf (c :: cs) || occursIn part cs

def CompileError.exitCode : CompileError → Nat
  | .disk _ => ExitCode.disk
  | .inconsistent _ | .json _ | .yaml _ => ExitCode.invalidInput
  | .resource _ => ExitCode.general

/-- What a failure is about. -/
inductive Cause where
  | known (e : CompileError)
  /-- An error of which there are only words. -/
  | words (message : String)
deriving DecidableEq, Repr

namespace Cause

def message : Cause → String
  | .known e => e.message
  | .words message => message

/-- The error, and what it has been made from. -/
def chain : Cause → List String
  | .known e => e.message :: e.source?.toList
  | .words message => [message]

end Cause

structure Failure where
  /-- What was being done, the whole before its parts. -/
  contexts : List String := []
  cause : Cause
deriving DecidableEq, Repr

namespace Failure

/-- An error that was met while something was being done. -/
def during (context : String) (e : CompileError) : Failure := ⟨[context], .known e⟩

/-- The error that a failure is about, if it is a known one. -/
def known? (f : Failure) : Option CompileError :=
  match f.cause with
  | .known e => some e
  | .words _ => none

/-- The words with which a failure begins. -/
def heading (f : Failure) : String := f.contexts.headD f.cause.message

/-- A failure in all its words. -/
def message (f : Failure) : String := ": ".intercalate (f.contexts ++ f.cause.chain)

/-- The exit code that words stand for. -/
def codeOfWords (words : String) : Nat :=
  let spoken := (Text.lowercase words).toList
  if Text.occursIn "error finding".toList spoken then ExitCode.errorFindings
  else if Text.occursIn "argument".toList spoken || Text.occursIn "not found".toList spoken then
    ExitCode.invalidInput
  else ExitCode.general

def exitCode (f : Failure) : Nat :=
  match f.known? with
  | some e => e.exitCode
  | none => codeOfWords f.heading

def errorFindings (count : Nat) : Failure :=
  ⟨[], .words ("Compilation produced " ++ toString count ++ " error finding(s)")⟩

end Failure

/-- The line of a printed value; `context` is what is being done. -/
def Notations.printLine (n : Notations) (context : String) (value : Json) :
    Except Failure String :=
  match n.printJson value with
  | .ok text => .ok (text ++ "\n")
  | .error message => .error ⟨[context], .words message⟩

end Groundplan
