/-!
# Findings

What the compiler has to say about a diagram: problems with single resources and edges, which do not
stop the compilation.
-/

namespace Groundplan

inductive Severity where
  | info
  | warning
  | error
deriving DecidableEq, Repr

def Severity.name : Severity → String
  | .info => "info"
  | .warning => "warning"
  | .error => "error"

/-- What has been found. -/
inductive FindingKind where
  | unresolvedConnection
  | ambiguousRule
  | duplicateProvider
  | unknownResourceType
  | generatorFailed
  | missingProperty
  | referenceOverwroteValue
deriving DecidableEq, Repr

namespace FindingKind

def name : FindingKind → String
  | .unresolvedConnection => "unresolved-connection"
  | .ambiguousRule => "ambiguous-rule"
  | .duplicateProvider => "duplicate-provider"
  | .unknownResourceType => "unknown-resource-type"
  | .generatorFailed => "generator-failed"
  | .missingProperty => "missing-property"
  | .referenceOverwroteValue => "reference-overwrote-value"

/-- A resource for which nothing is generated is an error, a value that gave way to a connection is
worth knowing, and everything else is a warning. -/
def severity : FindingKind → Severity
  | .unresolvedConnection | .ambiguousRule | .duplicateProvider | .missingProperty => .warning
  | .unknownResourceType | .generatorFailed => .error
  | .referenceOverwroteValue => .info

end FindingKind

/-- A finding, with the resource and the edge it is about. -/
structure Finding where
  kind : FindingKind
  severity : Severity := kind.severity
  message : String
  node : Option String := none
  edge : Option String := none
deriving DecidableEq, Repr

namespace Finding

def text (f : Finding) : String :=
  "[" ++ f.severity.name ++ "] " ++ f.message
    ++ (f.node.elim "" fun node => " (node " ++ node ++ ")")
    ++ (f.edge.elim "" fun edge => " (edge " ++ edge ++ ")")

def count (severity : Severity) (findings : List Finding) : Nat :=
  findings.countP (·.severity == severity)

def hasErrors (findings : List Finding) : Bool := findings.any (·.severity == .error)

def ofKind (kind : FindingKind) (findings : List Finding) : List Finding :=
  findings.filter (·.kind == kind)

end Finding

end Groundplan
