import Groundplan.Azure.Catalog
import Groundplan.Proofs.BlockContents

/-!
# What the Azure generators emit

For each generator the conditions under which it succeeds, what it then declares, and the types,
labels and attributes of its blocks. Everything else about the built-in catalog is derived from here.
-/

namespace Groundplan

namespace Context

/-- The variable that a property becomes, if the user has made it one. -/
def exposure? (c : Context) (r : Resource) (key : String) (value : Property)
    (options : VariableOptions := {}) : Option Variable :=
  if r.mode key = .literal ∨ value.reference?.isSome then none
  else some (c.variableFor key value options)

/-- What stands for a value in a block: its variable, or the value itself. -/
def written (value : Property) : Option Variable → Value
  | some v => .expression ("var." ++ v.name)
  | none => value.toValue

theorem propertyValue_eq (c : Context) (r : Resource) (key : String) (value : Property)
    (options : VariableOptions) : c.propertyValue r key value options =
      ⟨(c.exposure? r key value options).toList.map .ofVariable,
        .ok (written value (c.exposure? r key value options))⟩ := by
  unfold propertyValue exposure?
  split <;> rfl

end Context

namespace Azure

/-- The value of a setting, or its fallback. -/
def settingProperty (r : Resource) (key fallback : String) : Property :=
  (r.present? key).getD (.string fallback)

/-- The variable that a setting becomes, if the user has made it one. -/
def settingVariable? (r : Resource) (c : Context) (key fallback : String) : Option Variable :=
  c.exposure? r key (settingProperty r key fallback)

def settingAttribute (r : Resource) (c : Context) (key fallback : String) : String × Value :=
  (key, Context.written (settingProperty r key fallback) (settingVariable? r c key fallback))

theorem settingValue_eq_ok_iff {r : Resource} {c : Context} {key fallback : String}
    {declared : List Declaration} {value : Value} :
    settingValue r c key fallback = ⟨declared, .ok value⟩ ↔
      declared = (settingVariable? r c key fallback).toList.map .ofVariable ∧
        value = (settingAttribute r c key fallback).2 := by
  rw [settingValue, Context.propertyValue_eq]
  constructor
  · intro h
    cases h
    exact ⟨rfl, rfl⟩
  · rintro ⟨rfl, rfl⟩
    rfl

/-- The attributes that resources in a resource group have in common. -/
def placement (c : Context) (group place : Value) : List (String × Value) :=
  [("name", .string c.resolvedName), ("resource_group_name", group), ("location", place)]

def tagging (c : Context) : List (String × Value) := optionalAttribute "tags" c.commonTags?

/-- A property that is copied if it is set, as an attribute. -/
def copied (r : Resource) (key : String) : List (String × Value) :=
  optionalAttribute key ((r.present? key).map (·.toValue))

theorem declares_withTags {b : Block} {type : String} {labels : List String}
    {attributes : List (String × Value)} (h : b.Declares type labels attributes) (c : Context)
    (hkey : "tags" ∉ attributes.map (·.1)) :
    (withTags b c).Declares type labels (attributes ++ tagging c) :=
  h.set? "tags" c.commonTags? hkey

theorem declares_copyPresent {b : Block} {type : String} {labels : List String}
    {attributes : List (String × Value)} (h : b.Declares type labels attributes) (r : Resource)
    (key : String) (hkey : key ∉ attributes.map (·.1)) :
    (copyPresent b r key).Declares type labels (attributes ++ copied r key) :=
  h.set? key _ hkey

theorem locatedBlock_eq_ok {terraformType : String} {r : Resource} {c : Context} {b : Block}
    (h : locatedBlock terraformType r c = .ok b) : ∃ group place,
      resourceGroupName r = .ok group ∧ location r = .ok place ∧
        b.Declares "resource" [terraformType, c.label] (placement c group place) := by
  unfold locatedBlock at h
  cases hgroup : resourceGroupName r with
  | error e =>
    rw [hgroup] at h
    cases h
  | ok group =>
    cases hplace : location r with
    | error e =>
      rw [hgroup, hplace] at h
      cases h
    | ok place =>
      rw [hgroup, hplace] at h
      cases h
      exact ⟨group, place, rfl, rfl, ((Block.Declares.resource terraformType c.label).set _ _
        (by simp)).set _ _ (by simp) |>.set _ _ (by simp)⟩

section Generators

variable {r : Resource} {c : Context} {declared : List Declaration} {blocks : List Block}

theorem generateResourceGroup_eq_ok (h : generateResourceGroup r c = ⟨declared, .ok blocks⟩) :
    ∃ place, r.present? "location" = some place ∧ declared = [] ∧
      ∃ b : Block, blocks = [b] ∧ b.Declares "resource" ["azurerm_resource_group", c.label]
        ([("name", .string c.resolvedName), ("location", place.toValue)] ++ tagging c) := by
  simp only [generateResourceGroup, Generation.bind_eq_ok_iff, Generation.liftM_eq_ok_iff,
    Generation.pure_eq_ok_iff, Resource.require_eq_ok_iff] at h
  obtain ⟨_, place, _, ⟨rfl, hplace⟩, ⟨rfl, rfl⟩, rfl⟩ := h
  exact ⟨place, hplace, rfl, _, rfl, declares_withTags
    (((Block.Declares.resource _ c.label).set _ _ (by simp)).set _ _ (by simp)) c (by simp)⟩

theorem generateVirtualNetwork_eq_ok (h : generateVirtualNetwork r c = ⟨declared, .ok blocks⟩) :
    ∃ group place space, resourceGroupName r = .ok group ∧ location r = .ok place ∧
      r.present? "address_space" = some space ∧ declared = [] ∧
      ∃ b : Block, blocks = [b] ∧ b.Declares "resource" ["azurerm_virtual_network", c.label]
        (placement c group place ++ [("address_space", space.toValue)] ++ copied r "dns_servers" ++
          tagging c) := by
  simp only [generateVirtualNetwork, Generation.bind_eq_ok_iff, Generation.liftM_eq_ok_iff,
    Generation.pure_eq_ok_iff, Resource.require_eq_ok_iff] at h
  obtain ⟨_, located, _, ⟨rfl, hlocated⟩, ⟨_, space, _, ⟨rfl, hspace⟩, ⟨rfl, rfl⟩, rfl⟩, rfl⟩ := h
  obtain ⟨group, place, hgroup, hplace, hdeclares⟩ := locatedBlock_eq_ok hlocated
  exact ⟨group, place, space, hgroup, hplace, hspace, rfl, _, rfl,
    declares_withTags (declares_copyPresent (hdeclares.set _ _ (by simp [placement])) r _
      (by simp [placement])) c (by simp [placement, copied])⟩

theorem generateNetworkSecurityGroup_eq_ok
    (h : generateNetworkSecurityGroup r c = ⟨declared, .ok blocks⟩) :
    ∃ group place, resourceGroupName r = .ok group ∧ location r = .ok place ∧ declared = [] ∧
      ∃ b : Block, blocks = [b] ∧
        b.Declares "resource" ["azurerm_network_security_group", c.label]
          (placement c group place ++ tagging c) := by
  simp only [generateNetworkSecurityGroup, Generation.bind_eq_ok_iff, Generation.liftM_eq_ok_iff,
    Generation.pure_eq_ok_iff] at h
  obtain ⟨_, located, _, ⟨rfl, hlocated⟩, ⟨rfl, rfl⟩, rfl⟩ := h
  obtain ⟨group, place, hgroup, hplace, hdeclares⟩ := locatedBlock_eq_ok hlocated
  exact ⟨group, place, hgroup, hplace, rfl, _, rfl,
    declares_withTags hdeclares c (by simp [placement])⟩

theorem generatePublicIp_eq_ok (h : generatePublicIp r c = ⟨declared, .ok blocks⟩) :
    ∃ group place allocation, resourceGroupName r = .ok group ∧ location r = .ok place ∧
      allocationMethod r = .ok allocation ∧ declared = [] ∧
      ∃ b : Block, blocks = [b] ∧ b.Declares "resource" ["azurerm_public_ip", c.label]
        (placement c group place ++ [("allocation_method", .string allocation)] ++
          [("sku", .string (r.stringOr "sku" "Standard"))] ++ copied r "domain_name_label" ++
          tagging c) := by
  simp only [generatePublicIp, Generation.bind_eq_ok_iff, Generation.liftM_eq_ok_iff,
    Generation.pure_eq_ok_iff] at h
  obtain ⟨_, allocation, _, ⟨rfl, hallocation⟩, ⟨_, located, _, ⟨rfl, hlocated⟩, ⟨rfl, rfl⟩, rfl⟩,
    rfl⟩ := h
  obtain ⟨group, place, hgroup, hplace, hdeclares⟩ := locatedBlock_eq_ok hlocated
  exact ⟨group, place, allocation, hgroup, hplace, hallocation, rfl, _, rfl,
    declares_withTags (declares_copyPresent ((hdeclares.set _ _ (by simp [placement])).set _ _
      (by simp [placement])) r _ (by simp [placement])) c (by simp [placement, copied])⟩

theorem generateAppServicePlan_eq_ok (h : generateAppServicePlan r c = ⟨declared, .ok blocks⟩) :
    ∃ group place, resourceGroupName r = .ok group ∧ location r = .ok place ∧
      declared = (settingVariable? r c "os_type" "Linux").toList.map .ofVariable ++
        (settingVariable? r c "sku_name" "B1").toList.map .ofVariable ∧
      ∃ b : Block, blocks = [b] ∧ b.Declares "resource" ["azurerm_service_plan", c.label]
        (placement c group place ++ [settingAttribute r c "os_type" "Linux"] ++
          [settingAttribute r c "sku_name" "B1"] ++ tagging c) := by
  simp only [generateAppServicePlan, Generation.bind_eq_ok_iff, Generation.liftM_eq_ok_iff,
    Generation.pure_eq_ok_iff, settingValue_eq_ok_iff] at h
  obtain ⟨_, located, _, ⟨rfl, hlocated⟩, ⟨_, _, _, ⟨rfl, rfl⟩, ⟨_, _, _, ⟨rfl, rfl⟩, ⟨rfl, rfl⟩,
    rfl⟩, rfl⟩, rfl⟩ := h
  obtain ⟨group, place, hgroup, hplace, hdeclares⟩ := locatedBlock_eq_ok hlocated
  exact ⟨group, place, hgroup, hplace, by simp, _, rfl,
    declares_withTags ((hdeclares.set _ _ (by simp [placement])).set _ _
      (by simp [placement, settingAttribute])) c (by simp [placement, settingAttribute])⟩

theorem generateStorageAccount_eq_ok (h : generateStorageAccount r c = ⟨declared, .ok blocks⟩) :
    ∃ group place, checkAccountName r c = .ok () ∧ resourceGroupName r = .ok group ∧
      location r = .ok place ∧
      declared = (settingVariable? r c "account_tier" "Standard").toList.map .ofVariable ++
        (settingVariable? r c "account_replication_type" "LRS").toList.map .ofVariable ∧
      ∃ b : Block, blocks = [b] ∧ b.Declares "resource" ["azurerm_storage_account", c.label]
        (placement c group place ++ [settingAttribute r c "account_tier" "Standard"] ++
          [settingAttribute r c "account_replication_type" "LRS"] ++ copied r "access_tier" ++
          tagging c) := by
  simp only [generateStorageAccount, Generation.bind_eq_ok_iff, Generation.liftM_eq_ok_iff,
    Generation.pure_eq_ok_iff, settingValue_eq_ok_iff] at h
  obtain ⟨_, _, _, ⟨rfl, hname⟩, ⟨_, located, _, ⟨rfl, hlocated⟩, ⟨_, _, _, ⟨rfl, rfl⟩,
    ⟨_, _, _, ⟨rfl, rfl⟩, ⟨rfl, rfl⟩, rfl⟩, rfl⟩, rfl⟩, rfl⟩ := h
  obtain ⟨group, place, hgroup, hplace, hdeclares⟩ := locatedBlock_eq_ok hlocated
  exact ⟨group, place, hname, hgroup, hplace, by simp, _, rfl,
    declares_withTags (declares_copyPresent ((hdeclares.set _ _ (by simp [placement])).set _ _
      (by simp [placement, settingAttribute])) r _ (by simp [placement, settingAttribute])) c
      (by simp [placement, settingAttribute, copied])⟩

theorem generateSubnet_eq_ok (h : generateSubnet r c = ⟨declared, .ok blocks⟩) :
    ∃ group network ranges, subnetResourceGroup r = .ok group ∧
      r.present? "virtual_network_name" = some network ∧
      r.present? "address_prefixes" = some ranges ∧ declared = [] ∧
      ∃ b : Block, b.Declares "resource" ["azurerm_subnet", c.label]
          ([("name", .string c.resolvedName), ("resource_group_name", group),
            ("virtual_network_name", network.toValue), ("address_prefixes", ranges.toValue)] ++
            copied r "service_endpoints") ∧
        (r.present? "network_security_group_id" = none ∧ blocks = [b] ∨
          ∃ securityGroup subnetId association,
            r.present? "network_security_group_id" = some securityGroup ∧
            c.attributeOf r.id "id" = .ok subnetId ∧ blocks = [b, association] ∧
            association.Declares "resource"
              ["azurerm_subnet_network_security_group_association", c.label]
              [("subnet_id", .expression subnetId),
                ("network_security_group_id", securityGroup.toValue)]) := by
  simp only [generateSubnet, Generation.bind_eq_ok_iff, Generation.liftM_eq_ok_iff,
    Resource.require_eq_ok_iff] at h
  obtain ⟨_, group, _, ⟨rfl, hgroup⟩, ⟨_, network, _, ⟨rfl, hnetwork⟩,
    ⟨_, ranges, _, ⟨rfl, hranges⟩, h, rfl⟩, rfl⟩, rfl⟩ := h
  refine ⟨group, network, ranges, hgroup, hnetwork, hranges, ?_⟩
  have hplaced := ((Block.Declares.resource "azurerm_subnet" c.label).set "name"
    (.string c.resolvedName) (by simp)).set "resource_group_name" group (by simp)
  have hnetworked := (hplaced.set "virtual_network_name" network.toValue (by simp)).set
    "address_prefixes" ranges.toValue (by simp)
  have hsubnet := declares_copyPresent hnetworked r "service_endpoints" (by simp)
  split at h
  · rename_i hnone
    obtain ⟨rfl, rfl⟩ := Generation.pure_eq_ok_iff.mp h
    exact ⟨rfl, _, hsubnet, .inl ⟨hnone, rfl⟩⟩
  · rename_i securityGroup hsome
    simp only [Generation.bind_eq_ok_iff, Generation.liftM_eq_ok_iff,
      Generation.pure_eq_ok_iff] at h
    obtain ⟨_, subnetId, _, ⟨rfl, hid⟩, ⟨rfl, rfl⟩, rfl⟩ := h
    exact ⟨rfl, _, hsubnet, .inr ⟨securityGroup, subnetId, _, hsome, hid, rfl,
      ((Block.Declares.resource _ c.label).set _ _ (by simp)).set _ _ (by simp)⟩⟩

def siteKeys : List String :=
  ["always_on", "node_version", "python_version", "dotnet_version", "java_version", "php_version"]

theorem runtimeKey?_mem {runtime key : String} (h : runtimeKey? runtime = some key) :
    key ∈ siteKeys := by
  unfold runtimeKey? at h
  split at h <;> simp_all [siteKeys]

theorem applicationStack?_attributes {runtime : String} {b : Block}
    (h : applicationStack? runtime = some b) :
    ∀ a ∈ b.attributes, a.1 ∈ siteKeys ∧ a.2.expressions = [] := by
  unfold applicationStack? at h
  dsimp only at h
  split at h
  · cases h
  · rename_i version _
    obtain ⟨key, hkey, rfl⟩ := Option.map_eq_some_iff.mp h
    rw [((Block.Declares.ofType "application_stack" []).set _ _ (by simp)).attributes_eq]
    intro a ha
    obtain rfl := List.mem_singleton.mp ha
    exact ⟨runtimeKey?_mem hkey, rfl⟩

theorem siteConfig_attributes (r : Resource) :
    ∀ a ∈ (siteConfig r).attributes, a.1 ∈ siteKeys ∧ a.2.expressions = [] := by
  have halways : ∀ a ∈ (if isFlag r "always_on" true then
      (Block.ofType "site_config" []).set "always_on" (.bool true)
      else Block.ofType "site_config" []).attributes, a.1 ∈ siteKeys ∧ a.2.expressions = [] := by
    split
    · rw [((Block.Declares.ofType "site_config" []).set _ _ (by simp)).attributes_eq]
      intro a ha
      obtain rfl := List.mem_singleton.mp ha
      exact ⟨by simp [siteKeys], rfl⟩
    · exact fun a ha => absurd ha List.not_mem_nil
  unfold siteConfig
  dsimp only
  split
  · rename_i stack hstack
    obtain ⟨runtime, _, hruntime⟩ := Option.bind_eq_some_iff.mp hstack
    intro a ha
    rw [Block.attributes_nest] at ha
    rcases List.mem_append.mp ha with ha | ha
    · exact halways a ha
    · exact applicationStack?_attributes hruntime a ha
  · exact halways

theorem generateAppService_eq_ok (h : generateAppService r c = ⟨declared, .ok blocks⟩) :
    ∃ group place plan, resourceGroupName r = .ok group ∧ location r = .ok place ∧
      r.present? "service_plan_id" = some plan ∧ declared = [] ∧
      ∃ b : Block, blocks = [b] ∧ b.Declares "resource" ["azurerm_linux_web_app", c.label]
        (placement c group place ++ [("service_plan_id", plan.toValue)] ++
          copied r "virtual_network_subnet_id" ++
          optionalAttribute "https_only" (if ¬isFlag r "https_only" false then
            some (.bool true) else none) ++ (siteConfig r).attributes ++ tagging c) := by
  simp only [generateAppService, Generation.bind_eq_ok_iff, Generation.liftM_eq_ok_iff,
    Generation.pure_eq_ok_iff, Resource.require_eq_ok_iff] at h
  obtain ⟨_, located, _, ⟨rfl, hlocated⟩, ⟨_, plan, _, ⟨rfl, hplan⟩, ⟨rfl, rfl⟩, rfl⟩, rfl⟩ := h
  obtain ⟨group, place, hgroup, hplace, hdeclares⟩ := locatedBlock_eq_ok hlocated
  have hconnected := declares_copyPresent (hdeclares.set "service_plan_id" plan.toValue
    (by simp [placement])) r "virtual_network_subnet_id" (by simp [placement])
  have hsecured := hconnected.set_ite "https_only" (.bool true) (¬isFlag r "https_only" false)
    (by simp [placement, copied])
  rw [ite_not] at hsecured
  have htags : "tags" ∉ (siteConfig r).attributes.map (·.1) := by
    intro hmem
    obtain ⟨a, ha, hkey⟩ := List.mem_map.mp hmem
    have hsite := (siteConfig_attributes r a ha).1
    rw [hkey] at hsite
    simp [siteKeys] at hsite
  refine ⟨group, place, plan, hgroup, hplace, hplan, rfl, _, rfl,
    declares_withTags (hsecured.nest _) c ?_⟩
  simp only [List.map_append, List.mem_append, not_or]
  exact ⟨⟨⟨⟨by simp [placement], by simp⟩, by simp [copied]⟩, by simp⟩, htags⟩

theorem generateKeyVault_eq_ok (h : generateKeyVault r c = ⟨declared, .ok blocks⟩) :
    ∃ group place, resourceGroupName r = .ok group ∧ location r = .ok place ∧
      declared = (settingVariable? r c "sku_name" "standard").toList.map .ofVariable ++
        (vaultOutputs c).map .ofOutput ∧
      ∃ client vault : Block, blocks = [client, vault] ∧
        client.Declares "data" ["azurerm_client_config", c.label] [] ∧
        vault.Declares "resource" ["azurerm_key_vault", c.label]
          (placement c group place ++ [settingAttribute r c "sku_name" "standard"] ++
            [("tenant_id", .expression ("data.azurerm_client_config." ++ c.label ++ ".tenant_id"))] ++
            optionalAttribute "soft_delete_retention_days"
              ((r.property? "soft_delete_retention_days").map (·.toValue)) ++
            optionalAttribute "purge_protection_enabled"
              (if (r.property? "purge_protection_enabled").bind (·.bool?) == some true
                then some (.bool true) else none) ++ tagging c) := by
  simp only [generateKeyVault, vaultOutputs, List.forIn_cons, List.forIn_nil, bind_assoc, pure_bind,
    Generation.bind_eq_ok_iff, Generation.liftM_eq_ok_iff, Generation.pure_eq_ok_iff,
    Generation.declareOutput_eq_ok_iff, settingValue_eq_ok_iff] at h
  obtain ⟨_, located, _, ⟨rfl, hlocated⟩, ⟨_, _, _, ⟨rfl, rfl⟩, ⟨_, _, _, rfl, ⟨_, _, _, rfl,
    ⟨rfl, rfl⟩, rfl⟩, rfl⟩, rfl⟩, rfl⟩ := h
  obtain ⟨group, place, hgroup, hplace, hdeclares⟩ := locatedBlock_eq_ok hlocated
  have hidentified := (hdeclares.set "sku_name" (settingAttribute r c "sku_name" "standard").2
    (by simp [placement])).set "tenant_id"
    (.expression ("data.azurerm_client_config." ++ c.label ++ ".tenant_id")) (by simp [placement])
  have hprotected := (hidentified.set? "soft_delete_retention_days"
    ((r.property? "soft_delete_retention_days").map (·.toValue)) (by simp [placement])).set_ite
    "purge_protection_enabled" (.bool true)
    ((r.property? "purge_protection_enabled").bind (·.bool?) == some true) (by simp [placement])
  refine ⟨group, place, hgroup, hplace, by simp [vaultOutputs], _, _, rfl,
    Block.Declares.ofType _ _, declares_withTags hprotected c
      (by simp [placement, settingAttribute])⟩

end Generators

end Azure

end Groundplan
