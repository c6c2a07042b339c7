import Groundplan.Azure.Placement
import Groundplan.Azure.TypeId

/-!
# Azure key vaults

A key vault brings a data source of its own, from which it takes the tenant, and two outputs.
-/

namespace Groundplan.Azure

/-- The data source that goes with a vault. -/
def clientConfigBlock (c : Context) : Block :=
  Block.ofType "data" ["azurerm_client_config", c.label]

def vaultOutputs (c : Context) : List Output :=
  let address := "azurerm_key_vault." ++ c.label
  [{ name := c.label ++ "_vault_uri", value := address ++ ".vault_uri"
     description := "URI of key vault " ++ c.resolvedName },
   { name := c.label ++ "_id", value := address ++ ".id"
     description := "ID of key vault " ++ c.resolvedName }]

def generateKeyVault : Generator := fun r c => do
  let located ← locatedBlock "azurerm_key_vault" r c
  let sku ← settingValue r c "sku_name" "standard"
  let identified := located
    |>.set "sku_name" sku
    |>.set "tenant_id" (.expression ("data.azurerm_client_config." ++ c.label ++ ".tenant_id"))
  let retained := identified.set? "soft_delete_retention_days"
    ((r.property? "soft_delete_retention_days").map (·.toValue))
  let vault :=
    if (r.property? "purge_protection_enabled").bind (·.bool?) == some true then
      retained.set "purge_protection_enabled" (.bool true)
    else retained
  for output in vaultOutputs c do
    Generation.declareOutput output
  return [clientConfigBlock c, withTags vault c]

def keyVaultType : ResourceType where
  typeId := TypeId.keyVault
  provider := providerId
  terraformType := some "azurerm_key_vault"
  schema :=
    [{ key := "sku_name", label := "SKU", kind := .select, default := some (.string "standard") },
     { key := "soft_delete_retention_days", label := "Soft Delete Days", kind := .number },
     { key := "purge_protection_enabled", label := "Purge Protection", kind := .boolean }]
  icon := some "key-vault"
  generate := generateKeyVault

def securityPlugin : Plugin where
  id := "azurerm/security"
  providerId := providerId
  types := [keyVaultType]

end Groundplan.Azure
