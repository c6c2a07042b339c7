import Groundplan.Azure.Placement
import Groundplan.Azure.TypeId

/-!
# Azure web apps

App service plans and the web apps they host.
-/

namespace Groundplan.Azure

def generateAppServicePlan : Generator := fun r c => do
  let block ← locatedBlock "azurerm_service_plan" r c
  let system ← settingValue r c "os_type" "Linux"
  let sku ← settingValue r c "sku_name" "B1"
  return [withTags (block.set "os_type" system |>.set "sku_name" sku) c]

/-- The attribute that holds the version of a runtime. -/
def runtimeKey? : String → Option String
  | "NODE" => some "node_version"
  | "PYTHON" => some "python_version"
  | "DOTNETCORE" => some "dotnet_version"
  | "JAVA" => some "java_version"
  | "PHP" => some "php_version"
  | _ => none

/-- The block for a runtime written as its name and version with a bar between them. -/
def applicationStack? (runtime : String) : Option Block :=
  let name := runtime.toList.takeWhile (· != '|')
  match runtime.toList.drop name.length with
  | [] => none
  | _ :: version => (runtimeKey? (String.ofList name)).map fun key =>
    (Block.ofType "application_stack" []).set key (.string (String.ofList version))

/-- Whether a property holds the given truth value. -/
def isFlag (r : Resource) (key : String) (expected : Bool) : Bool :=
  (r.property? key).bind (·.bool?) == some expected

/-- The block with the settings of the site; it is there even when it is empty. -/
def siteConfig (r : Resource) : Block :=
  let block := Block.ofType "site_config" []
  let always := if isFlag r "always_on" true then block.set "always_on" (.bool true) else block
  match ((r.property? "runtime_stack").bind (·.string?)).bind applicationStack? with
  | some stack => always.nest stack
  | none => always

def generateAppService : Generator := fun r c => do
  let located ← locatedBlock "azurerm_linux_web_app" r c
  let plan ← r.require "service_plan_id"
  let block := copyPresent (located.set "service_plan_id" plan.toValue) r
    "virtual_network_subnet_id"
  let secured :=
    if isFlag r "https_only" false then block else block.set "https_only" (.bool true)
  return [withTags (secured.nest (siteConfig r)) c]

def appServicePlanType : ResourceType where
  typeId := TypeId.appServicePlan
  provider := providerId
  terraformType := some "azurerm_service_plan"
  schema :=
    [{ key := "os_type", label := "OS", kind := .select, default := some (.string "Linux") },
     { key := "sku_name", label := "SKU", kind := .select, default := some (.string "B1") }]
  icon := some "app-service-plan"
  generate := generateAppServicePlan

def appServiceType : ResourceType where
  typeId := TypeId.appService
  provider := providerId
  terraformType := some "azurerm_linux_web_app"
  schema :=
    [{ key := "service_plan_id", label := "App Service Plan", kind := .reference, required := true },
     { key := "runtime_stack", label := "Runtime", kind := .select },
     { key := "always_on", label := "Always On", kind := .boolean },
     { key := "https_only", label := "HTTPS Only", kind := .boolean, default := some (.bool true) }]
  constraints := some { maxLength := some 60 }
  icon := some "app-service"
  generate := generateAppService

def hostingRule : Rule where
  endpoints := ⟨TypeId.appServicePlan, "apps-out", TypeId.appService, "plan-in"⟩
  reference := some ⟨.target, "service_plan_id", none⟩
  label := some "Hosts app"

def integrationRule : Rule where
  endpoints := ⟨TypeId.subnet, "integration-out", TypeId.appService, "subnet-in"⟩
  reference := some ⟨.target, "virtual_network_subnet_id", none⟩
  label := some "VNet integration"

def computePlugin : Plugin where
  id := "azurerm/compute"
  providerId := providerId
  types := [appServicePlanType, appServiceType]
  rules := [hostingRule, integrationRule]

end Groundplan.Azure
