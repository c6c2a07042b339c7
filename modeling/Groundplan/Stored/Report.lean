import Groundplan.Finding
import Groundplan.Generation.Declaration
import Groundplan.Stored.Diagram

/-!
# The stored form of reports

How findings, variables and outputs are written as JSON values and read from markup trees.
-/

namespace Groundplan

namespace Severity

def all : List Severity := [.info, .warning, .error]

def read : Reader Severity := Markup.choice (all.map fun severity => (severity.name, severity))

end Severity

namespace FindingKind

def all : List FindingKind :=
  [.unresolvedConnection, .ambiguousRule, .duplicateProvider, .unknownResourceType,
   .generatorFailed, .missingProperty, .referenceOverwroteValue]

def read : Reader FindingKind := Markup.choice (all.map fun kind => (kind.name, kind))

end FindingKind

namespace Finding

def toJson (f : Finding) : Json :=
  .object ([("kind", .string f.kind.name), ("severity", .string f.severity.name),
    ("message", .string f.message)]
    ++ Json.optional "node_id" (f.node.map .string)
    ++ Json.optional "edge_id" (f.edge.map .string))

def fields : List (Field Finding) :=
  [.required "kind" FindingKind.read fun v f => { f with kind := v },
   .required "severity" Severity.read fun v f => { f with severity := v },
   .required "message" Markup.text fun v f => { f with message := v },
   .optional "node_id" (Markup.nullable Markup.text) fun v f => { f with node := v },
   .optional "edge_id" (Markup.nullable Markup.text) fun v f => { f with edge := v }]

def read : Reader Finding :=
  Markup.readRecord fields { kind := .missingProperty, severity := .info, message := "" }

end Finding

namespace Variable

def toJson (v : Variable) : Json :=
  .object ([("name", .string v.name), ("type", .string v.type),
    ("description", .string v.description)]
    ++ Json.optional "default" (v.default.map (·.toJson))
    ++ [("sensitive", .bool v.sensitive)])

def fields : List (Field Variable) :=
  [.required "name" Markup.text fun x v => { v with name := x },
   .required "type" Markup.text fun x v => { v with type := x },
   .required "description" Markup.text fun x v => { v with description := x },
   .optional "default" (Markup.nullable Property.read) fun x v => { v with default := x },
   .optional "sensitive" Markup.flag fun x v => { v with sensitive := x }]

def read : Reader Variable := Markup.readRecord fields { name := "", type := "", description := "" }

end Variable

namespace Output

def toJson (o : Output) : Json :=
  .object [("name", .string o.name), ("value", .string o.value),
    ("description", .string o.description), ("sensitive", .bool o.sensitive)]

def fields : List (Field Output) :=
  [.required "name" Markup.text fun v o => { o with name := v },
   .required "value" Markup.text fun v o => { o with value := v },
   .required "description" Markup.text fun v o => { o with description := v },
   .optional "sensitive" Markup.flag fun v o => { o with sensitive := v }]

def read : Reader Output := Markup.readRecord fields { name := "", value := "", description := "" }

end Output

end Groundplan
