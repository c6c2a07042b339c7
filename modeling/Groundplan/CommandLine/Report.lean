import Groundplan.CommandLine.Listing
import Groundplan.Compile.Basic
import Groundplan.Stored.Report

/-!
# Reports

What is said about a compilation. A report for programs holds everything at once; in a report for
people the findings stand apart from the document or the list of files.
-/

namespace Groundplan

def Severity.marker : Severity → String
  | .error => "❌"
  | .warning => "⚠️ "
  | .info => "ℹ️ "

namespace Finding

def reportLine (f : Finding) : String := "   " ++ f.severity.marker ++ " " ++ f.text

def summaryLine (findings : List Finding) : String :=
  "   " ++ toString (count .error findings) ++ " errors, "
    ++ toString (count .warning findings) ++ " warnings, "
    ++ toString (count .info findings) ++ " info"

/-- The findings for people; no finding, no report. -/
def report (findings : List Finding) : String :=
  if findings.isEmpty then ""
  else unlines (["", "Findings:"] ++ findings.map (·.reportLine) ++ [summaryLine findings])

end Finding

/-- What has become of a configuration: shown as one document, or written to files. -/
inductive Delivery where
  | document
  | files (paths : List String)
deriving DecidableEq, Repr

namespace Delivery

def paths : Delivery → List String
  | .document => []
  | .files paths => paths

def filesReport (paths : List String) : String :=
  unlines (("✅ Wrote " ++ toString paths.length ++ " files") :: paths.map ("   📄 " ++ ·))

end Delivery

namespace Compiled

def reportJson (c : Compiled) (delivery : Delivery) : Json :=
  .object (Json.optional "document" (if delivery = .document then some (.string c.document) else none)
    ++ [("files", .ofStrings delivery.paths), ("findings", .array (c.findings.map (·.toJson))),
      ("has_errors", .bool c.hasErrors)])

/-- The report on a compilation, and what is said on the side. -/
def report (n : Notations) (c : Compiled) (delivery : Delivery) :
    Format → Except Failure (String × String)
  | .json => do return (← n.printLine "Failed to serialize result" (c.reportJson delivery), "")
  | .text => .ok
    (match delivery with
     | .document => c.document
     | .files paths => Delivery.filesReport paths,
     Finding.report c.findings)

end Compiled

end Groundplan
