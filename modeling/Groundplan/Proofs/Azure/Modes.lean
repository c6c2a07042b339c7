import Groundplan.Proofs.Azure.Generators
import Groundplan.Proofs.Azure.Registered
import Groundplan.Proofs.Generating

/-!
# Modes of settings

What the modes of a resource's properties change about its generation: nothing but the settings of
its type, each of which stands once in the blocks, as a variable or as its value.
-/

namespace Groundplan.Azure

/-- The settings of a type that can become variables, with their fallbacks. -/
def settings (typeId : String) : List (String × String) :=
  if typeId = TypeId.appServicePlan then [("os_type", "Linux"), ("sku_name", "B1")]
  else if typeId = TypeId.storageAccount then
    [("account_tier", "Standard"), ("account_replication_type", "LRS")]
  else if typeId = TypeId.keyVault then [("sku_name", "standard")]
  else []

/-- Whether a generation succeeds with settings between attributes that are given. -/
structure Sets (r : Resource) (c : Context) (settings : List (String × String))
    (before after : List (String × Value)) (g : Generation (List Block)) : Prop where
  succeeds : g.succeeds = true
  exposed : g.declared.filterMap (·.toVariable?) =
    settings.flatMap fun s => (settingVariable? r c s.1 s.2).toList
  attributes : g.results.flatMap (·.attributes) =
    before ++ settings.map (fun s => settingAttribute r c s.1 s.2) ++ after

section Generators

variable {r : Resource} {c : Context} {declared : List Declaration} {blocks : List Block}

theorem Sets.of_eq_ok {settings : List (String × String)} {before after : List (String × Value)}
    {g : Generation (List Block)} (hg : g = ⟨declared, .ok blocks⟩)
    (hvariables : declared.filterMap (·.toVariable?) =
      settings.flatMap fun s => (settingVariable? r c s.1 s.2).toList)
    (hattributes : blocks.flatMap (·.attributes) =
      before ++ settings.map (fun s => settingAttribute r c s.1 s.2) ++ after) :
    Sets r c settings before after g where
  succeeds := by rw [hg]; rfl
  exposed := by rw [hg]; exact hvariables
  attributes := by rw [hg]; exact hattributes

theorem sets_of_plain {generate : Generator}
    (hmodes : ∀ modes, generate { r with modes } c = generate r c)
    (hg : generate r c = ⟨[], .ok blocks⟩) :
    ∃ before after : List (String × Value),
      (∀ s ∈ ([] : List (String × String)), s.1 ∉ (before ++ after).map (·.1)) ∧
      ∀ modes, Sets { r with modes } c [] before after (generate { r with modes } c) :=
  ⟨blocks.flatMap (·.attributes), [], fun _ hs => absurd hs List.not_mem_nil, fun modes =>
    .of_eq_ok ((hmodes modes).trans hg) rfl (by simp)⟩

theorem filterMap_toVariable?_setting (key fallback : String) :
    ((settingVariable? r c key fallback).toList.map Declaration.ofVariable).filterMap
      (·.toVariable?) = (settingVariable? r c key fallback).toList := by
  cases settingVariable? r c key fallback <;> rfl

theorem exists_locatedBlock (terraformType : String) (c : Context) {group place : Value}
    (hgroup : resourceGroupName r = .ok group) (hplace : location r = .ok place) :
    ∃ b, locatedBlock terraformType r c = .ok b := by
  unfold locatedBlock
  rw [hgroup, hplace]
  exact ⟨_, rfl⟩

theorem exists_generateAppServicePlan {group place : Value}
    (hgroup : resourceGroupName r = .ok group) (hplace : location r = .ok place) :
    ∃ declared blocks, generateAppServicePlan r c = ⟨declared, .ok blocks⟩ := by
  obtain ⟨located, hlocated⟩ := exists_locatedBlock "azurerm_service_plan" c hgroup hplace
  unfold generateAppServicePlan
  rw [hlocated]
  simp only [settingValue, Context.propertyValue_eq]
  exact ⟨_, _, rfl⟩

theorem exists_generateStorageAccount {group place : Value}
    (hname : checkAccountName r c = .ok ()) (hgroup : resourceGroupName r = .ok group)
    (hplace : location r = .ok place) :
    ∃ declared blocks, generateStorageAccount r c = ⟨declared, .ok blocks⟩ := by
  obtain ⟨located, hlocated⟩ := exists_locatedBlock "azurerm_storage_account" c hgroup hplace
  unfold generateStorageAccount
  rw [hname, hlocated]
  simp only [settingValue, Context.propertyValue_eq]
  exact ⟨_, _, rfl⟩

theorem exists_generateKeyVault {group place : Value}
    (hgroup : resourceGroupName r = .ok group) (hplace : location r = .ok place) :
    ∃ declared blocks, generateKeyVault r c = ⟨declared, .ok blocks⟩ := by
  obtain ⟨located, hlocated⟩ := exists_locatedBlock "azurerm_key_vault" c hgroup hplace
  unfold generateKeyVault
  rw [hlocated]
  simp only [settingValue, Context.propertyValue_eq]
  exact ⟨_, _, rfl⟩

theorem sets_generateAppServicePlan (h : generateAppServicePlan r c = ⟨declared, .ok blocks⟩) :
    ∃ before after : List (String × Value),
      (∀ s ∈ settings TypeId.appServicePlan, s.1 ∉ (before ++ after).map (·.1)) ∧
      ∀ modes, Sets { r with modes } c (settings TypeId.appServicePlan) before after
        (generateAppServicePlan { r with modes } c) := by
  obtain ⟨group, place, hgroup, hplace, _⟩ := generateAppServicePlan_eq_ok h
  refine ⟨placement c group place, tagging c, ?_, fun modes => ?_⟩
  · simp [settings, placement, tagging]
  · obtain ⟨declared', blocks', hg⟩ := exists_generateAppServicePlan (r := { r with modes })
      (c := c) hgroup hplace
    obtain ⟨_, _, hgroup', hplace', hdeclared, b, hblocks, hb⟩ := generateAppServicePlan_eq_ok hg
    obtain rfl := Except.ok.inj (hgroup.symm.trans hgroup')
    obtain rfl := Except.ok.inj (hplace.symm.trans hplace')
    refine .of_eq_ok hg ?_ ?_
    · rw [hdeclared, List.filterMap_append, filterMap_toVariable?_setting, filterMap_toVariable?_setting]
      simp [settings]
    · rw [hblocks, List.flatMap_singleton, hb.attributes_eq]
      simp [settings]

theorem sets_generateStorageAccount (h : generateStorageAccount r c = ⟨declared, .ok blocks⟩) :
    ∃ before after : List (String × Value),
      (∀ s ∈ settings TypeId.storageAccount, s.1 ∉ (before ++ after).map (·.1)) ∧
      ∀ modes, Sets { r with modes } c (settings TypeId.storageAccount) before after
        (generateStorageAccount { r with modes } c) := by
  obtain ⟨group, place, hname, hgroup, hplace, _⟩ := generateStorageAccount_eq_ok h
  refine ⟨placement c group place, copied r "access_tier" ++ tagging c, ?_, fun modes => ?_⟩
  · simp [settings, TypeId.storageAccount, TypeId.appServicePlan, placement, copied, tagging]
  · obtain ⟨declared', blocks', hg⟩ := exists_generateStorageAccount (r := { r with modes })
      (c := c) hname hgroup hplace
    obtain ⟨_, _, _, hgroup', hplace', hdeclared, b, hblocks, hb⟩ := generateStorageAccount_eq_ok hg
    obtain rfl := Except.ok.inj (hgroup.symm.trans hgroup')
    obtain rfl := Except.ok.inj (hplace.symm.trans hplace')
    refine .of_eq_ok hg ?_ ?_
    · rw [hdeclared, List.filterMap_append, filterMap_toVariable?_setting, filterMap_toVariable?_setting]
      simp [settings, TypeId.storageAccount, TypeId.appServicePlan]
    · rw [hblocks, List.flatMap_singleton, hb.attributes_eq]
      simp [settings, TypeId.storageAccount, TypeId.appServicePlan, copied, Resource.present?,
        Resource.property?]

theorem sets_generateKeyVault (h : generateKeyVault r c = ⟨declared, .ok blocks⟩) :
    ∃ before after : List (String × Value),
      (∀ s ∈ settings TypeId.keyVault, s.1 ∉ (before ++ after).map (·.1)) ∧
      ∀ modes, Sets { r with modes } c (settings TypeId.keyVault) before after
        (generateKeyVault { r with modes } c) := by
  obtain ⟨group, place, hgroup, hplace, _⟩ := generateKeyVault_eq_ok h
  let tenant : String × Value :=
    ("tenant_id", .expression ("data.azurerm_client_config." ++ c.label ++ ".tenant_id"))
  let days := optionalAttribute "soft_delete_retention_days"
    ((r.property? "soft_delete_retention_days").map (·.toValue))
  let purge := optionalAttribute "purge_protection_enabled"
    (if (r.property? "purge_protection_enabled").bind (·.bool?) == some true
      then some (.bool true) else none)
  refine ⟨placement c group place, tenant :: (days ++ (purge ++ tagging c)), ?_, fun modes => ?_⟩
  · simp [settings, TypeId.keyVault, TypeId.storageAccount, TypeId.appServicePlan, placement,
      tagging, tenant, days, purge]
  · obtain ⟨declared', blocks', hg⟩ := exists_generateKeyVault (r := { r with modes })
      (c := c) hgroup hplace
    obtain ⟨_, _, hgroup', hplace', hdeclared, client, vault, hblocks, hclient, hvault⟩ :=
      generateKeyVault_eq_ok hg
    obtain rfl := Except.ok.inj (hgroup.symm.trans hgroup')
    obtain rfl := Except.ok.inj (hplace.symm.trans hplace')
    refine .of_eq_ok hg ?_ ?_
    · have houtputs : ((vaultOutputs c).map Declaration.ofOutput).filterMap (·.toVariable?) = [] := rfl
      rw [hdeclared, List.filterMap_append, filterMap_toVariable?_setting, houtputs]
      simp [settings, TypeId.keyVault, TypeId.storageAccount, TypeId.appServicePlan]
    · rw [hblocks, List.flatMap_cons, List.flatMap_singleton, hclient.attributes_eq,
        hvault.attributes_eq]
      simp [settings, TypeId.keyVault, TypeId.storageAccount, TypeId.appServicePlan, tenant, days,
        purge, Resource.property?]

/-- Of whatever type of the catalog a resource is, modes only change its settings. -/
theorem sets_generate {type : ResourceType} (htype : type ∈ resourceTypes)
    (h : type.generate r c = ⟨declared, .ok blocks⟩) :
    ∃ before after : List (String × Value),
      (∀ s ∈ settings type.typeId, s.1 ∉ (before ++ after).map (·.1)) ∧
      ∀ modes, Sets { r with modes } c (settings type.typeId) before after
        (type.generate { r with modes } c) := by
  simp only [resourceTypes, List.mem_cons, List.not_mem_nil, or_false] at htype
  rcases htype with rfl | rfl | rfl | rfl | rfl | rfl | rfl | rfl | rfl | rfl
  · obtain ⟨rfl, _⟩ := Generation.pure_eq_ok_iff.mp h
    exact sets_of_plain (fun _ => rfl) h
  · obtain ⟨_, _, rfl, _⟩ := generateResourceGroup_eq_ok h
    exact sets_of_plain (fun _ => rfl) h
  · obtain ⟨_, _, _, _, _, _, rfl, _⟩ := generateVirtualNetwork_eq_ok h
    exact sets_of_plain (fun _ => rfl) h
  · obtain ⟨_, _, _, _, _, _, rfl, _⟩ := generateSubnet_eq_ok h
    exact sets_of_plain (fun _ => rfl) h
  · obtain ⟨_, _, _, _, rfl, _⟩ := generateNetworkSecurityGroup_eq_ok h
    exact sets_of_plain (fun _ => rfl) h
  · obtain ⟨_, _, _, _, _, _, rfl, _⟩ := generatePublicIp_eq_ok h
    exact sets_of_plain (fun _ => rfl) h
  · exact sets_generateAppServicePlan h
  · obtain ⟨_, _, _, _, _, _, rfl, _⟩ := generateAppService_eq_ok h
    exact sets_of_plain (fun _ => rfl) h
  · exact sets_generateStorageAccount h
  · exact sets_generateKeyVault h

end Generators

end Groundplan.Azure
