import Groundplan.Compile.Identities
import Groundplan.Finding

/-!
# Connections

Edges are looked at in the order of the diagram. The governing rule of an edge may write a reference
to one end into a property of the other; such a property belongs to the connection, and a value that
was there before gives way and is reported.
-/

namespace Groundplan

/-- What a connection has written into a resource. -/
structure Injection where
  updated : Resource
  key : String
  /-- The value that gave way, if it was set and differs from the new one. -/
  overwritten : Option Property

/-- The value that refers to an attribute of a resource. A resource without an address is referred
to by its name. -/
def Identity.reference (i : Identity) (name : String) : Property :=
  match i.address? with
  | some address => .reference (address ++ "." ++ name)
  | none => .string i.resolvedName

def Resource.inject (r : Resource) (key : String) (value : Property) : Injection where
  updated := r.setProperty key value
  key := key
  overwritten := (r.present? key).filter (· != value)

/-- What a rule makes of an edge between two members; nothing if it creates no reference. -/
def Rule.inject? (rule : Rule) (source target : Member) : Option Injection :=
  rule.reference.map fun directive =>
    match directive.side with
    | .source =>
      source.resource.inject directive.key (target.identity.reference directive.attributeOrId)
    | .target =>
      target.resource.inject directive.key (source.identity.reference directive.attributeOrId)

def Edge.endpoints (edge : Edge) (source target : Resource) : Endpoints :=
  ⟨source.typeId, edge.sourceHandle, target.typeId, edge.targetHandle⟩

/-- What the choice of a rule for an edge gives reason to report. -/
def Resolution.findings (r : Resolution) (edge : Edge) (endpoints : Endpoints) : List Finding :=
  match r with
  | .matched _ => []
  | .ambiguous _ candidates =>
    [{ kind := .ambiguousRule
       message := toString candidates ++ " connection rules match " ++ endpoints.text
        ++ "; using the first registered"
       edge := some edge.id }]
  | .unresolved =>
    [{ kind := .unresolvedConnection
       message := "No connection rule allows " ++ endpoints.text
       edge := some edge.id }]

/-- The report of a value that gave way, if one did. Where an earlier connection governs the same
property, the value was that connection's. -/
def Injection.findings (i : Injection) (edge : Edge) (governedBefore : Bool) : List Finding :=
  match i.overwritten with
  | none => []
  | some previous =>
    let message :=
      if governedBefore then
        "Property '" ++ i.key ++ "' of '" ++ i.updated.id
          ++ "' is set by more than one connection; the last one wins"
      else
        "Connection replaced the value " ++ previous.describe ++ " of property '" ++ i.key
          ++ "' on '" ++ i.updated.id ++ "'"
    [{ kind := .referenceOverwroteValue, message
       node := some i.updated.id, edge := some edge.id }]

def Member.update (members : List Member) (resource : Resource) : List Member :=
  members.map fun member =>
    if member.resource.id == resource.id then { member with resource } else member

/-- The course of connecting: the members as they are, the resources and properties that connections
have written so far, and the findings. -/
structure Connecting where
  members : List Member
  governed : List (String × String) := []
  findings : List Finding := []

namespace Connecting

/-- The state after what the governing rule of an edge has written. -/
def write (state : Connecting) (edge : Edge) (injection : Injection) : Connecting :=
  let place := (injection.updated.id, injection.key)
  { members := Member.update state.members injection.updated
    governed := place :: state.governed
    findings := state.findings ++ injection.findings edge (state.governed.contains place) }

def connect (rules : List Rule) (state : Connecting) (edge : Edge) : Connecting :=
  match Member.find? state.members edge.source, Member.find? state.members edge.target with
  | some source, some target =>
    let endpoints := edge.endpoints source.resource target.resource
    let resolution := Rule.resolve rules endpoints
    let state := { state with findings := state.findings ++ resolution.findings edge endpoints }
    match resolution.rule?.bind (·.inject? source target) with
    | some injection => state.write edge injection
    | none => state
  | _, _ => state

end Connecting

/-- The members after all edges, and what came up. -/
def connectAll (rules : List Rule) (members : List Member) (edges : List Edge) : Connecting :=
  edges.foldl (Connecting.connect rules) { members }

end Groundplan
