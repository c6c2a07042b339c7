/-!
# Azure type ids

The ids of the built-in types of resources. The part before the first slash is their provider.
-/

namespace Groundplan.Azure

def providerId : String := "azurerm"

namespace TypeId

def subscription : String := "azurerm/core/subscription"

def resourceGroup : String := "azurerm/core/resource_group"

def virtualNetwork : String := "azurerm/networking/virtual_network"

def subnet : String := "azurerm/networking/subnet"

def networkSecurityGroup : String := "azurerm/networking/network_security_group"

def publicIp : String := "azurerm/networking/public_ip"

def appServicePlan : String := "azurerm/compute/app_service_plan"

def appService : String := "azurerm/compute/app_service"

def storageAccount : String := "azurerm/storage/storage_account"

def keyVault : String := "azurerm/security/key_vault"

/-- The types whose resources live in a resource group, in the order of their rules. -/
def grouped : List String :=
  [virtualNetwork, subnet, networkSecurityGroup, publicIp, appServicePlan, appService,
   storageAccount, keyVault]

end TypeId

end Groundplan.Azure
