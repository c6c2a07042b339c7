import Groundplan.Proofs.Alike
import Groundplan.Proofs.Azure.Registered

/-!
# What the Azure generators make of resources that look alike

The same blocks and declarations, with one exception: a key vault copies the days that it keeps
deleted objects even if they are blank. For a public address it takes the kind of the address to be
set, as it is by default.
-/

namespace Groundplan

namespace Context.Alike

variable {id : String} {c e : Context}

theorem label_eq (h : c.Alike id e) : c.label = e.label := congrArg (·.label) h.identity_eq

theorem resolvedName_eq (h : c.Alike id e) : c.resolvedName = e.resolvedName :=
  congrArg (·.resolvedName) h.identity_eq

theorem commonTags?_eq (h : c.Alike id e) : c.commonTags? = e.commonTags? := by
  rw [commonTags?, commonTags?, h.project_eq]

theorem attributeOf_eq (h : c.Alike id e) (name : String) :
    c.attributeOf id name = e.attributeOf id name := by
  rw [attributeOf, attributeOf, h.address?_eq]

theorem propertyValue_eq_of_alike (h : c.Alike id e) {r s : Resource} (hr : r.Alike s)
    (key : String) (value : Property) (options : VariableOptions) :
    c.propertyValue r key value options = e.propertyValue s key value options := by
  simp only [propertyValue, variableFor, hr.mode_eq, h.label_eq, h.resolvedName_eq]

end Context.Alike

namespace Azure

section Generators

variable {r s : Resource} {c e : Context} (hr : r.Alike s) (hc : c.Alike s.id e)

include hr

theorem besideReference?_eq_of_alike (key other : String) :
    besideReference? r key other = besideReference? s key other := by
  rw [besideReference?, besideReference?,
    hr.bind_property?_eq fun _ => Property.reference?_of_isBlank]

theorem resourceGroupName_eq_of_alike : resourceGroupName r = resourceGroupName s := by
  rw [resourceGroupName, resourceGroupName, hr.require_eq]

theorem location_eq_of_alike : location r = location s := by
  simp only [location, hr.present?_eq, besideReference?_eq_of_alike hr, hr.id_eq]

theorem subnetResourceGroup_eq_of_alike : subnetResourceGroup r = subnetResourceGroup s := by
  rw [subnetResourceGroup, subnetResourceGroup, resourceGroupName_eq_of_alike hr,
    besideReference?_eq_of_alike hr]

theorem copyPresent_eq_of_alike (block : Block) (key : String) :
    copyPresent block r key = copyPresent block s key := by
  rw [copyPresent, copyPresent, hr.present?_eq]

theorem isFlag_eq_of_alike (key : String) (expected : Bool) :
    isFlag r key expected = isFlag s key expected := by
  rw [isFlag, isFlag, hr.bind_property?_eq fun _ => Property.bool?_of_isBlank]

theorem siteConfig_eq_of_alike : siteConfig r = siteConfig s := by
  have hblank : ∀ value : Property, value.isBlank = true →
      value.string?.bind applicationStack? = none := by
    intro value h
    cases value with
    | string runtime =>
      have hempty : runtime = "" := by simpa [Property.isBlank] using h
      rw [hempty]
      rfl
    | bool | number | list | reference => rfl
  have hstack := hr.bind_property?_eq hblank "runtime_stack"
  rw [← Option.bind_assoc, ← Option.bind_assoc] at hstack
  simp only [siteConfig, isFlag_eq_of_alike hr, hstack]

include hc

theorem locatedBlock_eq_of_alike (terraformType : String) :
    locatedBlock terraformType r c = locatedBlock terraformType s e := by
  simp only [locatedBlock, resourceGroupName_eq_of_alike hr, location_eq_of_alike hr, hc.label_eq,
    hc.resolvedName_eq]

theorem settingValue_eq_of_alike (key fallback : String) :
    settingValue r c key fallback = settingValue s e key fallback := by
  rw [settingValue, settingValue, hr.present?_eq, hc.propertyValue_eq_of_alike hr]

omit hr in
theorem withTags_eq_of_alike (block : Block) : withTags block c = withTags block e := by
  rw [withTags, withTags, hc.commonTags?_eq]

theorem generateResourceGroup_eq_of_alike :
    generateResourceGroup r c = generateResourceGroup s e := by
  simp only [generateResourceGroup, hr.require_eq, withTags_eq_of_alike hc, hc.label_eq,
    hc.resolvedName_eq]

theorem generateVirtualNetwork_eq_of_alike :
    generateVirtualNetwork r c = generateVirtualNetwork s e := by
  simp only [generateVirtualNetwork, locatedBlock_eq_of_alike hr hc, hr.require_eq,
    copyPresent_eq_of_alike hr, withTags_eq_of_alike hc]

theorem generateSubnet_eq_of_alike : generateSubnet r c = generateSubnet s e := by
  simp only [generateSubnet, associationBlock, subnetResourceGroup_eq_of_alike hr, hr.require_eq,
    copyPresent_eq_of_alike hr, hr.present?_eq, hr.id_eq, hc.attributeOf_eq, hc.label_eq,
    hc.resolvedName_eq]

theorem generateNetworkSecurityGroup_eq_of_alike :
    generateNetworkSecurityGroup r c = generateNetworkSecurityGroup s e := by
  simp only [generateNetworkSecurityGroup, locatedBlock_eq_of_alike hr hc, withTags_eq_of_alike hc]

theorem generatePublicIp_eq_of_alike (hsku : r.stringOr "sku" "Standard" =
    s.stringOr "sku" "Standard") : generatePublicIp r c = generatePublicIp s e := by
  simp only [generatePublicIp, allocationMethod, hr.requireString_eq, hsku, hr.id_eq,
    locatedBlock_eq_of_alike hr hc, copyPresent_eq_of_alike hr, withTags_eq_of_alike hc]

theorem generateAppServicePlan_eq_of_alike :
    generateAppServicePlan r c = generateAppServicePlan s e := by
  simp only [generateAppServicePlan, locatedBlock_eq_of_alike hr hc, settingValue_eq_of_alike hr hc,
    withTags_eq_of_alike hc]

theorem generateAppService_eq_of_alike : generateAppService r c = generateAppService s e := by
  simp only [generateAppService, locatedBlock_eq_of_alike hr hc, hr.require_eq,
    copyPresent_eq_of_alike hr, isFlag_eq_of_alike hr, siteConfig_eq_of_alike hr,
    withTags_eq_of_alike hc]

theorem generateStorageAccount_eq_of_alike :
    generateStorageAccount r c = generateStorageAccount s e := by
  simp only [generateStorageAccount, checkAccountName, hc.resolvedName_eq, hr.id_eq,
    locatedBlock_eq_of_alike hr hc, settingValue_eq_of_alike hr hc, copyPresent_eq_of_alike hr,
    withTags_eq_of_alike hc]

theorem generateKeyVault_eq_of_alike (hdays : r.property? "soft_delete_retention_days" =
    s.property? "soft_delete_retention_days") : generateKeyVault r c = generateKeyVault s e := by
  have hpurge := isFlag_eq_of_alike hr "purge_protection_enabled" true
  unfold isFlag at hpurge
  simp only [generateKeyVault, vaultOutputs, clientConfigBlock, locatedBlock_eq_of_alike hr hc,
    settingValue_eq_of_alike hr hc, withTags_eq_of_alike hc, hc.label_eq, hc.resolvedName_eq,
    hdays, hpurge]

/-- Of whatever type of the catalog resources are that look alike, the same is generated for them,
if they agree in what generators read unfiltered. -/
theorem generate_eq_of_alike {type : ResourceType} (htype : type ∈ resourceTypes)
    (hsku : type = publicIpType → r.stringOr "sku" "Standard" = s.stringOr "sku" "Standard")
    (hdays : type = keyVaultType → r.property? "soft_delete_retention_days" =
      s.property? "soft_delete_retention_days") :
    type.generate r c = type.generate s e := by
  simp only [resourceTypes, List.mem_cons, List.not_mem_nil, or_false] at htype
  rcases htype with rfl | rfl | rfl | rfl | rfl | rfl | rfl | rfl | rfl | rfl
  · rfl
  · exact generateResourceGroup_eq_of_alike hr hc
  · exact generateVirtualNetwork_eq_of_alike hr hc
  · exact generateSubnet_eq_of_alike hr hc
  · exact generateNetworkSecurityGroup_eq_of_alike hr hc
  · exact generatePublicIp_eq_of_alike hr hc (hsku rfl)
  · exact generateAppServicePlan_eq_of_alike hr hc
  · exact generateAppService_eq_of_alike hr hc
  · exact generateStorageAccount_eq_of_alike hr hc
  · exact generateKeyVault_eq_of_alike hr hc (hdays rfl)

end Generators

end Azure

end Groundplan
