import Groundplan.Azure.TypeId
import Groundplan.Catalog.Basic

/-!
# The Azure provider

Its definition and the block that sets it up.
-/

namespace Groundplan.Azure

/-- The settings that go into the provider's block if they are set. -/
def providerSettings : List String := ["subscription_id", "tenant_id", "environment"]

/-- The block of the provider: its settings in a fixed order, then the block that it cannot do
without. -/
def providerBlock (settings : Dictionary Property) : Block :=
  (providerSettings.foldl
    (fun block key =>
      block.set? key (((settings.get? key).filter (!·.isBlank)).map (·.toValue)))
    (Block.ofType "provider" [providerId])).nest (Block.ofType "features" [])

def provider : Provider where
  id := providerId
  displayName := "Azure Resource Manager"
  source := "hashicorp/azurerm"
  version := "~> 4.0"
  configSchema :=
    [{ key := "subscription_id", label := "Subscription ID", kind := .string },
     { key := "tenant_id", label := "Tenant ID", kind := .string },
     { key := "environment", label := "Cloud environment", kind := .string }]
  block := providerBlock

end Groundplan.Azure
