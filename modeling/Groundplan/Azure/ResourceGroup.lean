import Groundplan.Azure.Placement
import Groundplan.Azure.Provider

/-!
# Subscriptions and resource groups

A subscription emits nothing: its id becomes a setting of the provider. A resource group gives its
name to the resources connected to it.
-/

namespace Groundplan.Azure

def generateResourceGroup : Generator := fun r c => do
  let place ← r.require "location"
  return [withTags (Block.resource "azurerm_resource_group" c.label
    |>.set "name" (.string c.resolvedName)
    |>.set "location" place.toValue) c]

def subscriptionType : ResourceType where
  typeId := TypeId.subscription
  provider := providerId
  terraformType := none
  schema :=
    [{ key := "display_name", label := "Display Name", kind := .string },
     { key := "subscription_id", label := "Subscription ID", kind := .string, required := true }]
  providerProperties := ["subscription_id"]
  icon := some "subscription"
  nodeComponent := some "container"

def resourceGroupType : ResourceType where
  typeId := TypeId.resourceGroup
  provider := providerId
  terraformType := some "azurerm_resource_group"
  schema :=
    [{ key := "location", label := "Location", kind := .string, required := true
       default := some (.string "eastus") }]
  icon := some "resource-group"
  nodeComponent := some "container"
  generate := generateResourceGroup

/-- The rule by which a resource of the given type is put into a resource group. -/
def groupingRule (typeId : String) : Rule where
  endpoints := ⟨TypeId.resourceGroup, "resources", typeId, "rg-in"⟩
  reference := some ⟨.target, "resource_group_name", some "name"⟩
  label := some "Contains"

def subscriptionRule : Rule where
  endpoints :=
    ⟨TypeId.subscription, "resource-groups", TypeId.resourceGroup, "subscription-in"⟩
  label := some "Contains resource group"

def corePlugin : Plugin where
  id := "azurerm/core"
  providerId := providerId
  provider := some provider
  types := [subscriptionType, resourceGroupType]
  rules := subscriptionRule :: TypeId.grouped.map groupingRule

end Groundplan.Azure
