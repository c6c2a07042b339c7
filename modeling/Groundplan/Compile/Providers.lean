import Groundplan.Catalog.Basic
import Groundplan.Finding

/-!
# Providers

The providers a diagram needs and the settings of each. A setting comes from the first resource that
supplies it, failing that from the project, and failing that from the definition of the provider. Of
several definitions of one provider the first one counts.
-/

namespace Groundplan

structure RequiredProvider where
  name : String
  source : String
  version : String
deriving DecidableEq, Repr

def RequiredProvider.value (r : RequiredProvider) : Value :=
  .object [("source", .string r.source), ("version", .string r.version)]

/-- The required providers and their blocks, in the order of first use. -/
structure ProviderBlocks where
  required : List RequiredProvider := []
  blocks : List Block := []

namespace Provider

def requirement (p : Provider) : RequiredProvider := ⟨p.id, p.source, p.version⟩

/-- The report of a definition that does not count. -/
def repeatedFinding (p : Provider) : Finding where
  kind := .duplicateProvider
  message := "Provider '" ++ p.id
    ++ "' is registered more than once; the first registration is used"

/-- The definitions that count, given the ids already defined, and a report of the others. -/
def distinct (seen : List String) : List Provider → List Provider × List Finding
  | [] => ([], [])
  | p :: rest =>
    if seen.contains p.id then
      let (kept, findings) := distinct seen rest
      (kept, p.repeatedFinding :: findings)
    else
      let (kept, findings) := distinct (p.id :: seen) rest
      (p :: kept, findings)

/-- The definition that counts for an id. -/
def find? (providers : List Provider) (id : String) : Option Provider :=
  providers.find? (·.id == id)

/-- The defined providers of the resources' types, in the order of first use, after the ones that
are in use already. -/
def used (types : Registry) (providers : List Provider) :
    List Provider → List Resource → List Provider
  | active, [] => active
  | active, r :: rest =>
    match (types.get? r.typeId).bind fun type => find? providers type.provider with
    | some p =>
      used types providers (if active.any (·.id == p.id) then active else active ++ [p]) rest
    | none => used types providers active rest

/-- The settings before resources supply theirs. -/
def baseSettings (p : Provider) (project : Project) : Dictionary Property :=
  match project.providerConfigs.get? p.id with
  | some config => p.defaultConfig.overlay config
  | none => p.defaultConfig

end Provider

/-- The course of collecting settings: the settings of each active provider, which of them resources
have supplied, and the findings. -/
structure Settling where
  settings : Dictionary (Dictionary Property)
  supplied : List (String × String) := []
  findings : List Finding := []

namespace Settling

/-- The report of a setting that has already been supplied. -/
def repeatedFinding (provider key : String) (r : Resource) : Finding where
  kind := .duplicateProvider
  message := "Provider '" ++ provider ++ "' setting '" ++ key
    ++ "' is already supplied by another resource; ignoring this one"
  node := some r.id

def supply (provider : String) (r : Resource) (state : Settling) (key : String) : Settling :=
  match state.settings.get? provider, r.present? key with
  | some settings, some value =>
    if state.supplied.contains (provider, key) then
      { state with findings := state.findings ++ [repeatedFinding provider key r] }
    else
      { state with
        settings := state.settings.insert provider (settings.insert key value)
        supplied := (provider, key) :: state.supplied }
  | _, _ => state

def supplyAll (types : Registry) (state : Settling) (r : Resource) : Settling :=
  match types.get? r.typeId with
  | some type => type.providerProperties.foldl (supply type.provider r) state
  | none => state

end Settling

/-- The providers for the given resources, and what came up. -/
def ProviderBlocks.build (catalog : Catalog) (project : Project) (resources : List Resource) :
    ProviderBlocks × List Finding :=
  let (providers, repeated) := Provider.distinct [] catalog.providers
  let active := Provider.used catalog.types providers [] resources
  let settings := Dictionary.ofList (active.map fun p => (p.id, p.baseSettings project))
  let settled := resources.foldl (Settling.supplyAll catalog.types) { settings }
  ({ required := active.map (·.requirement)
     blocks := active.map fun p => p.block ((settled.settings.get? p.id).getD .empty) },
   repeated ++ settled.findings)

/-- The block with the settings of the whole configuration. -/
def ProviderBlocks.terraformBlock (p : ProviderBlocks) (project : Project) : Block :=
  let start := (Block.ofType "terraform" []).set "required_version" (.string project.terraformVersion)
  let required := p.required.foldl (fun block r => block.set r.name r.value)
    (Block.ofType "required_providers" [])
  let withRequired := if p.required.isEmpty then start else start.nest required
  match project.backend with
  | none => withRequired
  | some backend => withRequired.nest (backend.config.entries.foldl
      (fun block entry => block.set entry.1 (.string entry.2))
      (Block.ofType "backend" [backend.type]))

end Groundplan
