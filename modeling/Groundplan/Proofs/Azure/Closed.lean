import Groundplan.Proofs.Azure.Expressions

/-!
# Closed generations

Every Azure generator emits a block at the address of its resource, and nothing in what it declares
and emits depends on anything but the resources to which its references lead, what it has itself
declared and emitted, and the tags of the project.
-/

namespace Groundplan.Azure

/-- Whether what a generator has declared and emitted stands for itself but for some addresses and
the tags of the project. -/
structure Closed (addresses : List String) (c : Context) (declared : List Declaration)
    (blocks : List Block) : Prop where
  attributes : ∀ b ∈ blocks,
    AttributesHold (Supported (addresses ++ Block.addresses blocks) c declared) b.attributes
  defaults : ∀ v, .ofVariable v ∈ declared → ∃ p, v.default = some p ∧ p.isConstant = true
  outputs : ∀ o, .ofOutput o ∈ declared → RefersTo (Block.addresses blocks) o.value

theorem Supported.mono {fewer all : List String} (h : fewer ⊆ all) {c : Context}
    {declared : List Declaration} {e : String} (he : Supported fewer c declared e) :
    Supported all c declared e :=
  he.imp id (Or.imp id (·.mono h))

section Generators

variable {addresses : List String} {r : Resource} {c : Context} {declared : List Declaration}
  {blocks : List Block}

theorem Closed.single {b : Block} {terraformType : String} {attributes : List (String × Value)}
    (hb : b.Declares "resource" [terraformType, c.label] attributes)
    (hattributes : AttributesHold (Supported addresses c declared) attributes)
    (hvariables : ∀ v, .ofVariable v ∈ declared → ∃ p, v.default = some p ∧ p.isConstant = true)
    (houtputs : ∀ o, .ofOutput o ∉ declared) : Closed addresses c declared [b] where
  attributes := by
    intro other hother a ha e he
    obtain rfl := List.mem_singleton.mp hother
    rw [hb.attributes_eq] at ha
    exact (hattributes a ha e he).mono (List.subset_append_left _ _)
  defaults := hvariables
  outputs := fun o ho => absurd ho (houtputs o)

theorem Closed.single_of_nil {b : Block} {terraformType : String}
    {attributes : List (String × Value)}
    (hb : b.Declares "resource" [terraformType, c.label] attributes)
    (hattributes : AttributesHold (Supported addresses c []) attributes) :
    Closed addresses c [] [b] :=
  .single hb hattributes (fun _ h => absurd h List.not_mem_nil) (fun _ => List.not_mem_nil)

theorem closed_generateResourceGroup (hr : r.ClosedOver addresses)
    (h : generateResourceGroup r c = ⟨declared, .ok blocks⟩) :
    Closed addresses c declared blocks := by
  obtain ⟨place, hplace, rfl, b, rfl, hb⟩ := generateResourceGroup_eq_ok h
  have hlocated : AttributesHold (Supported addresses c [])
      [("name", .string c.resolvedName), ("location", place.toValue)] :=
    .cons (plain_string _) (.single fun e he => .inr (.inr (present?_closed hr hplace e he)))
  exact .single_of_nil hb (hlocated.append tagging_supported)

theorem closed_generateVirtualNetwork (hr : r.ClosedOver addresses)
    (h : generateVirtualNetwork r c = ⟨declared, .ok blocks⟩) :
    Closed addresses c declared blocks := by
  obtain ⟨group, place, space, hgroup, hplace, hspace, rfl, b, rfl, hb⟩ :=
    generateVirtualNetwork_eq_ok h
  have hranges : AttributesHold (Supported addresses c []) [("address_space", space.toValue)] :=
    .single fun e he => .inr (.inr (present?_closed hr hspace e he))
  exact .single_of_nil hb ((((placement_supported hr hgroup hplace).append hranges).append
    (copied_supported hr _)).append tagging_supported)

theorem closed_generateNetworkSecurityGroup (hr : r.ClosedOver addresses)
    (h : generateNetworkSecurityGroup r c = ⟨declared, .ok blocks⟩) :
    Closed addresses c declared blocks := by
  obtain ⟨group, place, hgroup, hplace, rfl, b, rfl, hb⟩ := generateNetworkSecurityGroup_eq_ok h
  exact .single_of_nil hb ((placement_supported hr hgroup hplace).append tagging_supported)

theorem closed_generatePublicIp (hr : r.ClosedOver addresses)
    (h : generatePublicIp r c = ⟨declared, .ok blocks⟩) : Closed addresses c declared blocks := by
  obtain ⟨group, place, allocation, hgroup, hplace, _, rfl, b, rfl, hb⟩ := generatePublicIp_eq_ok h
  have hallocated : AttributesHold (Supported addresses c [])
      (placement c group place ++ [("allocation_method", .string allocation)]) :=
    (placement_supported hr hgroup hplace).append (.single (plain_string allocation))
  exact .single_of_nil hb (((hallocated.append (.single (plain_string _))).append
    (copied_supported hr _)).append tagging_supported)

theorem default_of_mem_setting (hr : r.ClosedOver addresses) {key fallback : String} {v : Variable}
    (h : .ofVariable v ∈ (settingVariable? r c key fallback).toList.map Declaration.ofVariable) :
    ∃ p, v.default = some p ∧ p.isConstant = true := by
  obtain ⟨other, hother, heq⟩ := List.mem_map.mp h
  cases heq
  exact default_settingVariable? hr (by simpa using hother)

theorem closed_settings (hr : r.ClosedOver addresses) (first firstFallback second
    secondFallback : String) :
    let declared := (settingVariable? r c first firstFallback).toList.map Declaration.ofVariable ++
      (settingVariable? r c second secondFallback).toList.map .ofVariable
    AttributesHold (Supported addresses c declared) [settingAttribute r c first firstFallback] ∧
      AttributesHold (Supported addresses c declared) [settingAttribute r c second secondFallback] ∧
      (∀ v, .ofVariable v ∈ declared → ∃ p, v.default = some p ∧ p.isConstant = true) ∧
      ∀ o, .ofOutput o ∉ declared := by
  refine ⟨settingAttribute_supported hr fun v hv => ?_, settingAttribute_supported hr fun v hv => ?_,
    fun v hv => ?_, fun o ho => ?_⟩
  · simp [hv]
  · simp [hv]
  · rcases List.mem_append.mp hv with hv | hv
    · exact default_of_mem_setting hr hv
    · exact default_of_mem_setting hr hv
  · simp at ho

theorem closed_generateAppServicePlan (hr : r.ClosedOver addresses)
    (h : generateAppServicePlan r c = ⟨declared, .ok blocks⟩) :
    Closed addresses c declared blocks := by
  obtain ⟨group, place, hgroup, hplace, rfl, b, rfl, hb⟩ := generateAppServicePlan_eq_ok h
  obtain ⟨hsystem, hsku, hvariables, houtputs⟩ :=
    closed_settings (c := c) hr "os_type" "Linux" "sku_name" "B1"
  exact .single hb ((((placement_supported hr hgroup hplace).append hsystem).append hsku).append
    tagging_supported) hvariables houtputs

theorem closed_generateStorageAccount (hr : r.ClosedOver addresses)
    (h : generateStorageAccount r c = ⟨declared, .ok blocks⟩) :
    Closed addresses c declared blocks := by
  obtain ⟨group, place, _, hgroup, hplace, rfl, b, rfl, hb⟩ := generateStorageAccount_eq_ok h
  obtain ⟨htier, hreplication, hvariables, houtputs⟩ :=
    closed_settings (c := c) hr "account_tier" "Standard" "account_replication_type" "LRS"
  exact .single hb (((((placement_supported hr hgroup hplace).append htier).append
    hreplication).append (copied_supported hr _)).append tagging_supported) hvariables houtputs

theorem closed_generateAppService (hr : r.ClosedOver addresses)
    (h : generateAppService r c = ⟨declared, .ok blocks⟩) : Closed addresses c declared blocks := by
  obtain ⟨group, place, plan, hgroup, hplace, hplan, rfl, b, rfl, hb⟩ := generateAppService_eq_ok h
  have hhosted : AttributesHold (Supported addresses c []) [("service_plan_id", plan.toValue)] :=
    .single fun e he => .inr (.inr (present?_closed hr hplan e he))
  have hsecured : AttributesHold (Supported addresses c []) (optionalAttribute "https_only"
      (if ¬isFlag r "https_only" false then some (.bool true) else none)) :=
    .of_plain fun _ ha => expressions_of_mem_flag ha
  have hsite : AttributesHold (Supported addresses c []) (siteConfig r).attributes :=
    .of_plain fun a ha => (siteConfig_attributes r a ha).2
  exact .single_of_nil hb ((((((placement_supported hr hgroup hplace).append hhosted).append
    (copied_supported hr _)).append hsecured).append hsite).append tagging_supported)

theorem closed_generateSubnet (hr : r.ClosedOver (Member.addresses c.members))
    (h : generateSubnet r c = ⟨declared, .ok blocks⟩) :
    Closed (Member.addresses c.members) c declared blocks := by
  obtain ⟨group, network, ranges, hgroup, hnetwork, hranges, rfl, b, hb, hassociation⟩ :=
    generateSubnet_eq_ok h
  have hplaced : AttributesHold (Supported (Member.addresses c.members) c [])
      [("name", .string c.resolvedName), ("resource_group_name", group),
        ("virtual_network_name", network.toValue), ("address_prefixes", ranges.toValue)] :=
    .cons (plain_string _) (.cons
      (fun e he => .inr (.inr (subnetResourceGroup_closed hr hgroup e he))) (.cons
        (fun e he => .inr (.inr (present?_closed hr hnetwork e he))) (.single
          fun e he => .inr (.inr (present?_closed hr hranges e he)))))
  have hsubnet := hplaced.append (copied_supported hr "service_endpoints")
  rcases hassociation with ⟨_, rfl⟩ | ⟨securityGroup, subnetId, association, hsecurity, hid, rfl,
    hdeclares⟩
  · exact .single_of_nil hb hsubnet
  · have hself : RefersTo (Member.addresses c.members) subnetId := by
      unfold Context.attributeOf at hid
      split at hid
      · rename_i address haddress
        cases hid
        obtain ⟨member, hmember, hidentity⟩ := Option.bind_eq_some_iff.mp haddress
        exact ⟨address, List.mem_filterMap.mpr ⟨member, List.mem_of_find?_eq_some hmember,
          hidentity⟩, "id", by decide, rfl⟩
      · cases hid
    have hassociated : AttributesHold (Supported (Member.addresses c.members) c [])
        [("subnet_id", .expression subnetId),
          ("network_security_group_id", securityGroup.toValue)] :=
      .cons (fun e he => .inr (.inr (List.mem_singleton.mp he ▸ hself)))
        (.single fun e he => .inr (.inr (present?_closed hr hsecurity e he)))
    refine ⟨fun other hother a ha e he => ?_, fun _ h => absurd h List.not_mem_nil,
      fun _ h => absurd h List.not_mem_nil⟩
    apply Supported.mono (List.subset_append_left _ _)
    rcases List.mem_cons.mp hother with rfl | hother
    · exact hsubnet a (hb.attributes_eq ▸ ha) e he
    · obtain rfl := List.mem_singleton.mp hother
      exact hassociated a (hdeclares.attributes_eq ▸ ha) e he

theorem closed_generateKeyVault (hr : r.ClosedOver addresses)
    (h : generateKeyVault r c = ⟨declared, .ok blocks⟩) : Closed addresses c declared blocks := by
  obtain ⟨group, place, hgroup, hplace, rfl, client, vault, rfl, hclient, hvault⟩ :=
    generateKeyVault_eq_ok h
  have hclientAddress : "data." ++ "azurerm_client_config" ++ "." ++ c.label ∈
      Block.addresses [client, vault] :=
    Block.mem_addresses List.mem_cons_self hclient.address?_data
  have hvaultAddress : "azurerm_key_vault" ++ "." ++ c.label ∈ Block.addresses [client, vault] :=
    Block.mem_addresses (List.mem_cons_of_mem _ List.mem_cons_self) hvault.address?_resource
  refine ⟨fun other hother => ?_, fun v hv => ?_, fun o ho => ?_⟩
  · have hr' : r.ClosedOver (addresses ++ Block.addresses [client, vault]) := by
      intro key value hvalue
      exact (hr key value hvalue).imp id fun ⟨e, he, hrefers⟩ =>
        ⟨e, he, hrefers.mono (List.subset_append_left _ _)⟩
    rcases List.mem_cons.mp hother with rfl | hother
    · rw [hclient.attributes_eq]
      exact .nil
    · obtain rfl := List.mem_singleton.mp hother
      rw [hvault.attributes_eq]
      refine ((((((placement_supported hr' hgroup hplace).append
        (settingAttribute_supported hr' fun v hv => ?_)).append
        (.single fun e he => ?_)).append (.optional fun value hvalue e he => ?_)).append
        (.of_plain fun _ ha => expressions_of_mem_flag ha)).append tagging_supported)
      · simp [hv]
      · obtain rfl := List.mem_singleton.mp he
        exact .inr (.inr ⟨_, List.mem_append_right _ hclientAddress, "tenant_id", by decide,
          by simp [String.append_assoc]⟩)
      · obtain ⟨property, hproperty, rfl⟩ := Option.map_eq_some_iff.mp hvalue
        exact .inr (.inr ((hr' _ property hproperty).expressions e he))
  · rcases List.mem_append.mp hv with hv | hv
    · exact default_of_mem_setting hr hv
    · simp at hv
  · rcases List.mem_append.mp ho with ho | ho
    · simp at ho
    · simp only [vaultOutputs, List.map_cons, List.map_nil, List.mem_cons, List.not_mem_nil,
        Declaration.ofOutput.injEq, or_false] at ho
      rcases ho with rfl | rfl
      · exact ⟨_, hvaultAddress, "vault_uri", by decide, by simp [String.append_assoc]⟩
      · exact ⟨_, hvaultAddress, "id", by decide, by simp [String.append_assoc]⟩

/-- Whatever a resource of the catalog is, its generation is closed. -/
theorem closed_generate {type : ResourceType} (htype : type ∈ resourceTypes)
    (hr : r.ClosedOver (Member.addresses c.members))
    (h : type.generate r c = ⟨declared, .ok blocks⟩) :
    Closed (Member.addresses c.members) c declared blocks := by
  simp only [resourceTypes, List.mem_cons, List.not_mem_nil, or_false] at htype
  rcases htype with rfl | rfl | rfl | rfl | rfl | rfl | rfl | rfl | rfl | rfl
  · obtain ⟨rfl, rfl⟩ := Generation.pure_eq_ok_iff.mp h
    exact ⟨fun _ h => absurd h List.not_mem_nil, fun _ h => absurd h List.not_mem_nil,
      fun _ h => absurd h List.not_mem_nil⟩
  · exact closed_generateResourceGroup hr h
  · exact closed_generateVirtualNetwork hr h
  · exact closed_generateSubnet hr h
  · exact closed_generateNetworkSecurityGroup hr h
  · exact closed_generatePublicIp hr h
  · exact closed_generateAppServicePlan hr h
  · exact closed_generateAppService hr h
  · exact closed_generateStorageAccount hr h
  · exact closed_generateKeyVault hr h

theorem exists_declares_generate {type : ResourceType} (htype : type ∈ resourceTypes)
    {terraformType : String} (hterraform : type.terraformType = some terraformType)
    (h : type.generate r c = ⟨declared, .ok blocks⟩) :
    ∃ b ∈ blocks, ∃ attributes, b.Declares "resource" [terraformType, c.label] attributes := by
  simp only [resourceTypes, List.mem_cons, List.not_mem_nil, or_false] at htype
  rcases htype with rfl | rfl | rfl | rfl | rfl | rfl | rfl | rfl | rfl | rfl
  all_goals cases hterraform
  · obtain ⟨_, _, _, b, rfl, hb⟩ := generateResourceGroup_eq_ok h
    exact ⟨b, List.mem_cons_self, _, hb⟩
  · obtain ⟨_, _, _, _, _, _, _, b, rfl, hb⟩ := generateVirtualNetwork_eq_ok h
    exact ⟨b, List.mem_cons_self, _, hb⟩
  · obtain ⟨_, _, _, _, _, _, _, b, hb, ⟨_, rfl⟩ | ⟨_, _, _, _, _, rfl, _⟩⟩ :=
      generateSubnet_eq_ok h
    · exact ⟨b, List.mem_cons_self, _, hb⟩
    · exact ⟨b, List.mem_cons_self, _, hb⟩
  · obtain ⟨_, _, _, _, _, b, rfl, hb⟩ := generateNetworkSecurityGroup_eq_ok h
    exact ⟨b, List.mem_cons_self, _, hb⟩
  · obtain ⟨_, _, _, _, _, _, _, b, rfl, hb⟩ := generatePublicIp_eq_ok h
    exact ⟨b, List.mem_cons_self, _, hb⟩
  · obtain ⟨_, _, _, _, _, b, rfl, hb⟩ := generateAppServicePlan_eq_ok h
    exact ⟨b, List.mem_cons_self, _, hb⟩
  · obtain ⟨_, _, _, _, _, _, _, b, rfl, hb⟩ := generateAppService_eq_ok h
    exact ⟨b, List.mem_cons_self, _, hb⟩
  · obtain ⟨_, _, _, _, _, _, b, rfl, hb⟩ := generateStorageAccount_eq_ok h
    exact ⟨b, List.mem_cons_self, _, hb⟩
  · obtain ⟨_, _, _, _, _, client, b, rfl, _, hb⟩ := generateKeyVault_eq_ok h
    exact ⟨b, List.mem_cons_of_mem _ List.mem_cons_self, _, hb⟩

end Generators

end Groundplan.Azure
