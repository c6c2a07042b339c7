import Groundplan.Azure.KeyVault
import Groundplan.Azure.Network
import Groundplan.Azure.ResourceGroup
import Groundplan.Azure.StorageAccount
import Groundplan.Azure.WebApp

/-!
# The Azure catalog

All built-in plugins together.
-/

namespace Groundplan.Azure

def plugins : List Plugin :=
  [corePlugin, networkingPlugin, computePlugin, storagePlugin, securityPlugin]

def catalog : Catalog := Catalog.ofPlugins plugins

end Groundplan.Azure
