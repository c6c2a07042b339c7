import Groundplan.Azure.Placement
import Groundplan.Azure.TypeId

/-!
# Azure storage accounts

The name of a storage account is unique in the whole cloud and therefore held to narrow limits.
-/

namespace Groundplan.Azure

/-- Whether a character may stand in the name of a storage account. -/
def isAccountChar (c : Char) : Bool := ('a' ≤ c && c ≤ 'z') || Text.isDigit c

/-- Whether a name is 3 to 24 bytes long and holds only lowercase letters and digits. -/
def isAccountName (name : String) : Bool :=
  3 ≤ name.utf8ByteSize && name.utf8ByteSize ≤ 24 && name.toList.all isAccountChar

def checkAccountName (r : Resource) (c : Context) : Except ResourceError Unit :=
  if isAccountName c.resolvedName then .ok ()
  else .error (.failed r.id ("'" ++ c.resolvedName
    ++ "' is not a valid storage account name (3-24 lowercase letters and digits)"))

def generateStorageAccount : Generator := fun r c => do
  checkAccountName r c
  let located ← locatedBlock "azurerm_storage_account" r c
  let tier ← settingValue r c "account_tier" "Standard"
  let replication ← settingValue r c "account_replication_type" "LRS"
  return [withTags (copyPresent (located
    |>.set "account_tier" tier
    |>.set "account_replication_type" replication) r "access_tier") c]

def storageAccountType : ResourceType where
  typeId := TypeId.storageAccount
  provider := providerId
  terraformType := some "azurerm_storage_account"
  schema :=
    [{ key := "account_tier", label := "Tier", kind := .select
       default := some (.string "Standard") },
     { key := "account_replication_type", label := "Replication", kind := .select
       default := some (.string "LRS") },
     { key := "access_tier", label := "Access Tier", kind := .select }]
  constraints := some { lowercase := true, noHyphens := true, maxLength := some 24 }
  icon := some "storage-account"
  generate := generateStorageAccount

def storagePlugin : Plugin where
  id := "azurerm/storage"
  providerId := providerId
  types := [storageAccountType]

end Groundplan.Azure
