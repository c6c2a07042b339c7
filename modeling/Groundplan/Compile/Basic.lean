import Groundplan.Compile.Connections
import Groundplan.Compile.Defaults
import Groundplan.Compile.Providers
import Groundplan.Config.Render

/-!
# Compilation

A diagram becomes a configuration in steps that never touch the diagram itself: names and labels,
connections, defaults, providers, and the blocks of each resource. Problems with single resources and
edges are reported; only an inconsistent diagram has no configuration at all.
-/

namespace Groundplan

/-- A compiled configuration. -/
structure Compiled where
  terraform : Block
  providers : List Block
  locals : Option Block
  /-- The blocks of the resources, in the order of the diagram. -/
  blocks : List Block
  «variables» : List Variable
  outputs : List Output
  /-- The values of variables in the project, if there are any. -/
  valueFile : Option String
  findings : List Finding

namespace Compiled

/-- The blocks of the whole document, in order. -/
def documentBlocks (c : Compiled) : List Block :=
  c.terraform :: (c.providers ++ c.locals.toList ++ c.variables.map (·.toBlock) ++ c.blocks
    ++ c.outputs.map (·.toBlock))

def document (c : Compiled) : String := Block.renderAll c.documentBlocks

def hasErrors (c : Compiled) : Bool := Finding.hasErrors c.findings

end Compiled

/-- The block that holds the tags of a project, if it has any. -/
def Project.localsBlock? (p : Project) : Option Block :=
  if p.commonTags.isEmpty then none
  else some ((Block.ofType "locals" []).set "common_tags"
    (.object (p.commonTags.entries.map fun entry => (entry.1, .string entry.2))))

/-- What generating the resources one after the other has given so far. -/
structure Generated where
  blocks : List Block := []
  declarations : Declarations := {}
  findings : List Finding := []

namespace Generated

def unknownFinding (r : Resource) (e : ResourceError) : Finding where
  kind := .unknownResourceType
  message := e.message
  node := some r.id

def failedFinding (r : Resource) (e : ResourceError) : Finding where
  kind := .generatorFailed
  message := e.message
  node := some r.id

/-- The state after one more resource. What a failed generation has declared is taken back. -/
def generate (types : Registry) (d : Diagram) (members : List Member) (state : Generated)
    (member : Member) : Generated :=
  match types.resolve member.resource.typeId with
  | .error e => { state with findings := state.findings ++ [unknownFinding member.resource e] }
  | .ok type =>
    let context := ⟨member.identity, members, d.naming, d.project⟩
    let generation := type.generate member.resource context
    let mark := state.declarations.mark
    let declarations := state.declarations.addAll generation.declared
    match generation.outcome with
    | .ok blocks => { state with blocks := state.blocks ++ blocks, declarations }
    | .error e =>
      { state with
        declarations := declarations.rollback mark
        findings := state.findings ++ [failedFinding member.resource e] }

/-- The state after all resources. -/
def generateAll (types : Registry) (d : Diagram) (members : List Member) : Generated :=
  members.foldl (generate types d members) {}

end Generated

/-- The resources of a diagram with what the edges have written into them. -/
def Diagram.connected (d : Diagram) (catalog : Catalog) : Connecting :=
  connectAll catalog.rules (d.members catalog.types) d.edges

/-- The resources with the defaults of their types, and what came up with each. -/
def Connecting.filled (state : Connecting) (types : Registry) : List (Member × List Finding) :=
  state.members.map (·.withDefaults types)

/-- The resources as the generators get them. -/
def Diagram.working (d : Diagram) (catalog : Catalog) : List Member :=
  ((d.connected catalog).filled catalog.types).map (·.1)

/-- The configuration of a consistent diagram. -/
def Diagram.compileConsistent (d : Diagram) (catalog : Catalog) : Compiled :=
  let connected := d.connected catalog
  let filled := connected.filled catalog.types
  let members := filled.map (·.1)
  let (providers, providerFindings) :=
    ProviderBlocks.build catalog d.project (members.map (·.resource))
  let generated := Generated.generateAll catalog.types d members
  { terraform := providers.terraformBlock d.project
    providers := providers.blocks
    locals := d.project.localsBlock?
    blocks := generated.blocks
    «variables» := generated.declarations.variables
    outputs := generated.declarations.outputs
    valueFile := Variable.valueFile? generated.declarations.variables d.project.variableValues
    findings := connected.findings ++ filled.flatMap (·.2) ++ providerFindings
      ++ generated.findings }

def Diagram.compile (d : Diagram) (catalog : Catalog) : Except Inconsistency Compiled :=
  (fun _ => d.compileConsistent catalog) <$> d.check

theorem Diagram.compile_eq_ok_iff {d : Diagram} {catalog : Catalog} {c : Compiled} :
    d.compile catalog = .ok c ↔ d.check = .ok () ∧ d.compileConsistent catalog = c := by
  unfold Diagram.compile
  cases d.check <;> simp [Functor.map, Except.map]

end Groundplan
