import Groundplan.Catalog.ResourceType
import Groundplan.Catalog.Rule

/-!
# Catalogs

A catalog is put together from plugins. Every plugin speaks for one provider: types and provider
definitions of another provider are passed over, rules are not.
-/

namespace Groundplan

/-- A provider of resources. -/
structure Provider where
  id : String
  displayName : String
  source : String
  version : String
  configSchema : List PropertySchema := []
  defaultConfig : Dictionary Property := .empty
  /-- The block that sets up the provider with the given settings. -/
  block : Dictionary Property → Block

/-- A bundle of types and rules, and perhaps the definition of their provider. -/
structure Plugin where
  id : String
  providerId : String
  provider : Option Provider := none
  types : List ResourceType := []
  rules : List Rule := []

/-- Everything a diagram is compiled with. -/
structure Catalog where
  types : Registry := .empty
  rules : List Rule := []
  /-- The accepted provider definitions in the order of the plugins, repeated ones included. -/
  providers : List Provider := []

instance : Inhabited Catalog := ⟨{}⟩

namespace Plugin

def ownProvider? (p : Plugin) : Option Provider := p.provider.filter (·.id == p.providerId)

def ownTypes (p : Plugin) : List ResourceType := p.types.filter (·.provider == p.providerId)

end Plugin

namespace Catalog

def add (c : Catalog) (p : Plugin) : Catalog where
  types := p.ownTypes.foldl Registry.register c.types
  rules := c.rules ++ p.rules
  providers := c.providers ++ p.ownProvider?.toList

/-- The catalog of the given plugins; of types with the same id the last one counts. -/
def ofPlugins (plugins : List Plugin) : Catalog := plugins.foldl add {}

theorem rules_foldl_add (c : Catalog) (plugins : List Plugin) :
    (plugins.foldl add c).rules = c.rules ++ plugins.flatMap (·.rules) := by
  induction plugins generalizing c with
  | nil => simp
  | cons p plugins ih => simp [ih, add]

theorem rules_ofPlugins (plugins : List Plugin) :
    (ofPlugins plugins).rules = plugins.flatMap (·.rules) := by
  simp [ofPlugins, rules_foldl_add]

end Catalog

end Groundplan
