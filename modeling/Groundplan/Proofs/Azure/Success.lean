import Groundplan.Proofs.Azure.Connections
import Groundplan.Proofs.Azure.Expressions
import Groundplan.Proofs.Azure.Modes
import Groundplan.Proofs.Course
import Groundplan.Proofs.Success

/-!
# Success in Azure diagrams

For each generator what it needs, and that connections and defaults provide it. A resource in a
resource group has a place, because what its connection has written is an expression with a point in
it; whatever else stands in its properties, it can only fail for its name or its allocation.
-/

namespace Groundplan

/-- Whether an edge with the given ends leads to a resource. -/
def Diagram.LeadsTo (d : Diagram) (endpoints : Endpoints) (node : Resource) : Prop :=
  ∃ edge ∈ d.edges, ∃ source ∈ d.nodes,
    edge.source = source.id ∧ edge.target = node.id ∧ edge.endpoints source node = endpoints

namespace Azure

section Generators

variable {r : Resource} {c : Context}

/-- Whether a resource has a resource group, and a location of its own or that of the group. -/
structure Placed (r : Resource) : Prop where
  group : (r.present? "resource_group_name").isSome
  location : (r.present? "location").isSome ∨
    (besideReference? r "resource_group_name" "location").isSome

theorem exists_resourceGroupName_iff :
    (∃ group, resourceGroupName r = .ok group) ↔ (r.present? "resource_group_name").isSome := by
  simp only [resourceGroupName_eq_ok_iff, Option.isSome_iff_exists]
  constructor
  · rintro ⟨_, property, hproperty, rfl⟩
    exact ⟨property, hproperty⟩
  · rintro ⟨property, hproperty⟩
    exact ⟨property.toValue, property, hproperty, rfl⟩

theorem exists_location_iff : (∃ place, location r = .ok place) ↔
    (r.present? "location").isSome ∨
      (besideReference? r "resource_group_name" "location").isSome := by
  unfold location
  cases r.present? "location" <;> cases besideReference? r "resource_group_name" "location" <;>
    simp

theorem exists_locatedBlock_iff (terraformType : String) :
    (∃ b, locatedBlock terraformType r c = .ok b) ↔ Placed r := by
  constructor
  · rintro ⟨b, hb⟩
    obtain ⟨group, place, hgroup, hplace, _⟩ := locatedBlock_eq_ok hb
    exact ⟨exists_resourceGroupName_iff.mp ⟨group, hgroup⟩, exists_location_iff.mp ⟨place, hplace⟩⟩
  · intro h
    obtain ⟨group, hgroup⟩ := exists_resourceGroupName_iff.mpr h.group
    obtain ⟨place, hplace⟩ := exists_location_iff.mpr h.location
    exact exists_locatedBlock terraformType c hgroup hplace

theorem succeeds_settingValue_bind {β : Type} (key fallback : String) (f : Value → Generation β) :
    (settingValue r c key fallback >>= f).succeeds =
      (f (settingAttribute r c key fallback).2).succeeds := by
  apply Generation.succeeds_bind_of_ok
  rw [settingValue, Context.propertyValue_eq]
  rfl

theorem succeeds_generateResourceGroup_iff :
    (generateResourceGroup r c).succeeds = true ↔ (r.present? "location").isSome := by
  simp only [generateResourceGroup, Generation.succeeds_liftM_bind_iff, Generation.succeeds_pure,
    and_true, Resource.exists_require_iff]

theorem succeeds_generateVirtualNetwork_iff :
    (generateVirtualNetwork r c).succeeds = true ↔
      Placed r ∧ (r.present? "address_space").isSome := by
  simp only [generateVirtualNetwork, Generation.succeeds_liftM_bind_iff, Generation.succeeds_pure,
    and_true, exists_and_right, Resource.exists_require_iff, exists_locatedBlock_iff]

theorem succeeds_generateNetworkSecurityGroup_iff :
    (generateNetworkSecurityGroup r c).succeeds = true ↔ Placed r := by
  simp only [generateNetworkSecurityGroup, Generation.succeeds_liftM_bind_iff,
    Generation.succeeds_pure, and_true, exists_locatedBlock_iff]

theorem succeeds_generatePublicIp_iff :
    (generatePublicIp r c).succeeds = true ↔
      (∃ allocation, allocationMethod r = .ok allocation) ∧ Placed r := by
  simp only [generatePublicIp, Generation.succeeds_liftM_bind_iff, Generation.succeeds_pure,
    and_true, exists_and_right, exists_locatedBlock_iff]

theorem succeeds_generateAppServicePlan_iff :
    (generateAppServicePlan r c).succeeds = true ↔ Placed r := by
  simp only [generateAppServicePlan, Generation.succeeds_liftM_bind_iff,
    succeeds_settingValue_bind, Generation.succeeds_pure, and_true, exists_locatedBlock_iff]

theorem succeeds_generateAppService_iff :
    (generateAppService r c).succeeds = true ↔
      Placed r ∧ (r.present? "service_plan_id").isSome := by
  simp only [generateAppService, Generation.succeeds_liftM_bind_iff, Generation.succeeds_pure,
    and_true, exists_and_right, Resource.exists_require_iff, exists_locatedBlock_iff]

theorem succeeds_generateStorageAccount_iff :
    (generateStorageAccount r c).succeeds = true ↔
      checkAccountName r c = .ok () ∧ Placed r := by
  simp only [generateStorageAccount, Generation.succeeds_liftM_bind_iff,
    succeeds_settingValue_bind, Generation.succeeds_pure, and_true, exists_and_right,
    exists_locatedBlock_iff]
  constructor
  · rintro ⟨⟨⟨⟩, hname⟩, hplaced⟩
    exact ⟨hname, hplaced⟩
  · rintro ⟨hname, hplaced⟩
    exact ⟨⟨(), hname⟩, hplaced⟩

theorem succeeds_generateKeyVault_iff : (generateKeyVault r c).succeeds = true ↔ Placed r := by
  have houtputs : ∀ (blocks : List Block), Generation.succeeds (do
      for output in vaultOutputs c do
        Generation.declareOutput output
      return blocks : Generation (List Block)) = true := fun _ => rfl
  simp only [generateKeyVault, Generation.succeeds_liftM_bind_iff, succeeds_settingValue_bind,
    houtputs, and_true, exists_locatedBlock_iff]

theorem exists_subnetResourceGroup_iff : (∃ group, subnetResourceGroup r = .ok group) ↔
    (r.present? "resource_group_name").isSome ∨
      (besideReference? r "virtual_network_name" "resource_group_name").isSome := by
  rw [← exists_resourceGroupName_iff]
  unfold subnetResourceGroup
  cases resourceGroupName r with
  | ok group => simp
  | error e => cases besideReference? r "virtual_network_name" "resource_group_name" <;> simp

theorem succeeds_generateSubnet {address : String} (haddress : c.address? r.id = some address)
    (hgroup : (r.present? "resource_group_name").isSome ∨
      (besideReference? r "virtual_network_name" "resource_group_name").isSome)
    (hnetwork : (r.present? "virtual_network_name").isSome)
    (hranges : (r.present? "address_prefixes").isSome) :
    (generateSubnet r c).succeeds = true := by
  obtain ⟨group, hgroup⟩ := exists_subnetResourceGroup_iff.mpr hgroup
  obtain ⟨network, hnetwork⟩ := Resource.exists_require_iff.mpr hnetwork
  obtain ⟨ranges, hranges⟩ := Resource.exists_require_iff.mpr hranges
  have hself : c.attributeOf r.id "id" = .ok (address ++ "." ++ "id") := by
    rw [Context.attributeOf, haddress]
  simp only [generateSubnet, Generation.succeeds_liftM_bind_iff]
  refine ⟨group, hgroup, network, hnetwork, ranges, hranges, ?_⟩
  split
  · rfl
  · rw [Generation.succeeds_liftM_bind_iff]
    exact ⟨_, hself, rfl⟩

theorem besideReference?_of_reference {key address name : String}
    (hword : Text.isBareWord name = true)
    (hr : r.present? key = some (.reference (address ++ "." ++ name))) (other : String) :
    besideReference? r key other = some (.expression (address ++ "." ++ other)) := by
  have hproperty : r.property? key = some (.reference (address ++ "." ++ name)) :=
    (Option.filter_eq_some_iff.mp hr).1
  rw [besideReference?, hproperty]
  simp only [Option.bind_some, Property.reference?, siblingAttribute?_append hword,
    Option.map_some]

theorem placed_of_reference {address name : String} (hword : Text.isBareWord name = true)
    (hr : r.present? "resource_group_name" = some (.reference (address ++ "." ++ name))) :
    Placed r where
  group := by rw [hr]; rfl
  location := .inr (by rw [besideReference?_of_reference hword hr]; rfl)

end Generators

section Names

/-- Whether a name is made of 3 to 24 small letters and digits, all of them ASCII. -/
def IsAccountName (name : String) : Prop :=
  3 ≤ name.length ∧ name.length ≤ 24 ∧
    ∀ ch ∈ name.toList, ('a' ≤ ch ∧ ch ≤ 'z') ∨ ('0' ≤ ch ∧ ch ≤ '9')

theorem isAccountChar_iff {ch : Char} :
    isAccountChar ch = true ↔ ('a' ≤ ch ∧ ch ≤ 'z') ∨ ('0' ≤ ch ∧ ch ≤ '9') := by
  simp [isAccountChar, Text.isDigit]

theorem utf8Size_of_isAccountChar {ch : Char} (h : isAccountChar ch = true) : ch.utf8Size = 1 := by
  rw [Char.utf8Size_eq_one_iff]
  rcases isAccountChar_iff.mp h with ⟨_, hz⟩ | ⟨_, hnine⟩
  · exact UInt32.le_trans hz (by decide)
  · exact UInt32.le_trans hnine (by decide)

theorem utf8ByteSize_of_all_isAccountChar (name : String)
    (h : ∀ ch ∈ name.toList, isAccountChar ch = true) : name.utf8ByteSize = name.length := by
  induction name using String.push_induction with
  | empty => rfl
  | push name ch ih =>
    have hname : ∀ other ∈ name.toList, isAccountChar other = true :=
      fun other hother => h other (by simp [hother])
    have hch : ch.utf8Size = 1 := utf8Size_of_isAccountChar (h ch (by simp))
    rw [String.utf8ByteSize_push, String.length_push, ih hname, hch]

theorem isAccountName_iff {name : String} : isAccountName name = true ↔ IsAccountName name := by
  have hall : name.toList.all isAccountChar = true ↔
      ∀ ch ∈ name.toList, ('a' ≤ ch ∧ ch ≤ 'z') ∨ ('0' ≤ ch ∧ ch ≤ '9') := by
    simp only [List.all_eq_true, isAccountChar_iff]
  rw [isAccountName, Bool.and_eq_true, Bool.and_eq_true, decide_eq_true_iff, decide_eq_true_iff,
    hall, IsAccountName, and_assoc]
  by_cases hchars : ∀ ch ∈ name.toList, ('a' ≤ ch ∧ ch ≤ 'z') ∨ ('0' ≤ ch ∧ ch ≤ '9')
  · rw [utf8ByteSize_of_all_isAccountChar name fun ch hch => isAccountChar_iff.mpr (hchars ch hch)]
  · simp only [hchars, and_false]

theorem checkAccountName_eq_ok_iff {r : Resource} {c : Context} :
    checkAccountName r c = .ok () ↔ IsAccountName c.resolvedName := by
  rw [← isAccountName_iff, checkAccountName]
  split <;> rename_i h <;> simp [h]

/-- Whether the allocation of a public address is no text, or not a fixed one although the address is
of the standard kind. A kind that is no text counts as standard. -/
def Misallocated (allocation sku : Property) : Prop :=
  allocation.string? = none ∨
    sku.string?.getD "Standard" = "Standard" ∧ allocation.string? ≠ some "Static"

theorem exists_allocationMethod_iff {r : Resource} {allocation sku : Property}
    (hallocation : r.present? "allocation_method" = some allocation)
    (hsku : r.property? "sku" = some sku) :
    (∃ method, allocationMethod r = .ok method) ↔ ¬Misallocated allocation sku := by
  have hkind : r.stringOr "sku" "Standard" = sku.string?.getD "Standard" := by
    rw [Resource.stringOr, hsku, Option.bind_some]
  have hrequired : ∀ method, r.requireString "allocation_method" = .ok method ↔
      allocation.string? = some method := by
    intro method
    rw [Resource.requireString_eq_ok_iff, hallocation, Option.bind_some]
  unfold allocationMethod Misallocated
  rw [hkind]
  cases hmethod : allocation.string? with
  | none =>
    cases hrequire : r.requireString "allocation_method" with
    | error e => exact iff_of_false (fun ⟨_, h⟩ => by cases h) (fun h => h (.inl rfl))
    | ok method =>
      rw [hrequired, hmethod] at hrequire
      cases hrequire
  | some method =>
    rw [(hrequired method).mpr hmethod]
    show (∃ m, (if sku.string?.getD "Standard" = "Standard" ∧ method ≠ "Static" then
      throw _ else pure method : Except ResourceError String) = .ok m) ↔ _
    by_cases hrefused : sku.string?.getD "Standard" = "Standard" ∧ method ≠ "Static"
    · rw [if_pos hrefused]
      refine iff_of_false (fun ⟨_, h⟩ => by cases h) fun h => h (.inr ⟨hrefused.1, ?_⟩)
      exact fun heq => hrefused.2 (Option.some.inj heq)
    · rw [if_neg hrefused]
      refine iff_of_true ⟨method, rfl⟩ ?_
      rintro (h | ⟨hstandard, hother⟩)
      · cases h
      · exact hrefused ⟨hstandard, fun heq => hother (congrArg some heq)⟩

end Names

section Diagrams

variable {d : Diagram} {member : Member}

theorem nodup_endpoints_rules : (catalog.rules.map (·.endpoints)).Nodup := by
  rw [rules_catalog]
  exact nodup_endpoints_connectionRules

theorem value_of_mem_writings (hcheck : d.check = .ok ()) {w : Writing}
    (hw : w ∈ d.writings catalog) : ∃ address name : String, Text.isBareWord name = true ∧
      w.value = .reference (address ++ "." ++ name) := by
  obtain ⟨edge, _, hwriting⟩ := List.mem_filterMap.mp hw
  obtain ⟨directive, receiver, other, hconnects, _⟩ := Diagram.exists_connects_of_writing? hwriting
  have hvalue : w.value = other.identity.reference directive.attributeOrId := by
    have heq := hwriting.symm.trans (hconnects.writing? hcheck nodup_endpoints_rules)
    rw [Option.some.inj heq]
  obtain ⟨source, hsource, target, _, _, _, ⟨rule, hrule, hends, hdirective⟩, hsides⟩ := hconnects
  obtain ⟨hside, hattribute, _, hreferred⟩ := refers_of_mem_rules hrule directive hdirective
  rw [hside] at hsides
  cases hsides
  rw [hends] at hreferred
  obtain ⟨terraformType, _, hreference⟩ :=
    reference_of_referred hsource hreferred directive.attributeOrId
  refine ⟨terraformType ++ "." ++ other.identity.label, directive.attributeOrId, ?_, ?_⟩
  · rcases hattribute with h | h <;> rw [h] <;> decide
  · rw [hvalue, hreference]

/-- An edge that a rule of the catalog governs leaves a reference in its target: its own, or that of
a later edge. -/
theorem exists_reference_of_leadsTo (hcheck : d.check = .ok ())
    (hm : member ∈ d.members catalog.types) {rule : Rule} (hrule : rule ∈ connectionRules)
    {directive : ReferenceDirective} (hdirective : rule.reference = some directive)
    (hleads : d.LeadsTo rule.endpoints member.resource) :
    ∃ address name : String, Text.isBareWord name = true ∧
      (d.workingCopy catalog member).resource.present? directive.key =
        some (.reference (address ++ "." ++ name)) := by
  obtain ⟨edge, hedge, node, hnode, hs, ht, hendpoints⟩ := hleads
  obtain ⟨source, hsource, rfl⟩ := Diagram.exists_member_of_mem_nodes hnode catalog.types
  have hregistered : rule ∈ catalog.rules := rules_catalog ▸ hrule
  have hside := (refers_of_mem_rules hregistered directive hdirective).1
  have hconnects : d.Connects catalog edge directive member source :=
    ⟨source, hsource, member, hm, hs.symm, ht.symm,
      ⟨rule, hregistered, hendpoints.symm, hdirective⟩, by rw [hside]; rfl⟩
  have hwritten :
      (lastWriting? (d.writings catalog) member.resource.id directive.key).isSome := by
    rw [isSome_lastWriting?, List.contains_iff_mem, List.mem_reverse]
    exact List.mem_map.mpr ⟨_, List.mem_filterMap.mpr ⟨edge, hedge,
      hconnects.writing? hcheck nodup_endpoints_rules⟩, rfl⟩
  obtain ⟨w, hlast⟩ := Option.isSome_iff_exists.mp hwritten
  obtain ⟨address, name, hword, hvalue⟩ :=
    value_of_mem_writings hcheck (List.mem_reverse.mp (List.mem_of_find?_eq_some hlast))
  refine ⟨address, name, hword, ?_⟩
  rw [Diagram.present?_workingCopy catalog hlast (by rw [hvalue]; rfl), hvalue]

theorem lastWriting?_eq_none (hcheck : d.check = .ok ()) (hm : member ∈ d.members catalog.types)
    {key : String} (hkey : (member.resource.typeId, key) ∉ connectedKeys) :
    lastWriting? (d.writings catalog) member.resource.id key = none := by
  by_contra hne
  obtain ⟨w, hlast⟩ := Option.ne_none_iff_exists'.mp hne
  obtain ⟨hreceiver, hwkey⟩ : w.receiver = member.resource.id ∧ w.key = key := by
    simpa using List.find?_some hlast
  obtain ⟨edge, _, hwriting⟩ :=
    List.mem_filterMap.mp (List.mem_reverse.mp (List.mem_of_find?_eq_some hlast))
  obtain ⟨directive, receiver, other, hconnects, hid, hdkey⟩ :=
    Diagram.exists_connects_of_writing? hwriting
  have hsame : receiver = member := Member.eq_of_id_eq (Diagram.nodup_id_members catalog hcheck)
    hconnects.receiver_mem hm (hid.symm.trans hreceiver)
  obtain ⟨source, _, target, _, _, _, ⟨rule, hrule, hends, hdirective⟩, hsides⟩ := hconnects
  obtain ⟨hside, _, hconnected, _⟩ := refers_of_mem_rules hrule directive hdirective
  rw [hside] at hsides
  cases hsides
  rw [hends, ← hdkey, hwkey] at hconnected
  exact hkey (hsame ▸ hconnected)

/-- Whether a node is put into a resource group by an edge. -/
def InGroup (d : Diagram) (node : Resource) : Prop :=
  d.LeadsTo ⟨TypeId.resourceGroup, "resources", node.typeId, "rg-in"⟩ node

theorem placed_of_inGroup (hcheck : d.check = .ok ()) (hm : member ∈ d.members catalog.types)
    (htype : member.resource.typeId ∈ TypeId.grouped) (hgroup : InGroup d member.resource) :
    Placed (d.workingCopy catalog member).resource := by
  have hrule : groupingRule member.resource.typeId ∈ connectionRules :=
    List.mem_append_left _ (List.mem_cons_of_mem _ (List.mem_map_of_mem htype))
  obtain ⟨address, name, hword, hreference⟩ :=
    exists_reference_of_leadsTo hcheck hm hrule rfl hgroup
  exact placed_of_reference hword hreference

section Registered

variable (hcheck : d.check = .ok ()) (hm : member ∈ d.members catalog.types) {type : ResourceType}
  (hregistered : type ∈ resourceTypes) (htypeId : member.resource.typeId = type.typeId)

include hcheck hm hregistered htypeId

theorem present?_workingCopy_of_unconnected {key : String}
    (hkey : (type.typeId, key) ∉ connectedKeys) :
    (d.workingCopy catalog member).resource.present? key =
      (member.resource.present? key).or (type.schema.findSome? (·.fallback? key)) :=
  Diagram.present?_workingCopy_of_unwritten catalog
    (get?_types_catalog.mpr ⟨hregistered, htypeId.symm⟩)
    (lastWriting?_eq_none hcheck hm (htypeId ▸ hkey))

theorem isSome_present?_workingCopy {key : String} (hkey : (type.typeId, key) ∉ connectedKeys)
    (hdefault : (type.schema.findSome? (·.fallback? key)).isSome) :
    ((d.workingCopy catalog member).resource.present? key).isSome := by
  rw [present?_workingCopy_of_unconnected hcheck hm hregistered htypeId hkey, Option.isSome_or,
    hdefault, Bool.or_true]

theorem failsFor_iff_generate :
    (d.compileConsistent catalog).FailsFor member.resource.id ↔
      ¬(type.generate (d.workingCopy catalog member).resource
        (d.context catalog (d.workingCopy catalog member))).succeeds = true := by
  have htype : catalog.types.get? (d.workingCopy catalog member).resource.typeId = some type := by
    rw [Diagram.typeId_workingCopy]
    exact get?_types_catalog.mpr ⟨hregistered, htypeId.symm⟩
  have hworking := Diagram.workingCopy_mem_working catalog hcheck hm
  have hfails := Diagram.failsFor_iff catalog hcheck hworking htype
  rwa [Diagram.id_workingCopy, d.generation_eq_generate catalog htype] at hfails

theorem not_failsFor_of_generate
    (h : (type.generate (d.workingCopy catalog member).resource
      (d.context catalog (d.workingCopy catalog member))).succeeds = true) :
    ¬(d.compileConsistent catalog).FailsFor member.resource.id := by
  rw [failsFor_iff_generate hcheck hm hregistered htypeId, not_not]
  exact h

theorem exists_address?_context (hterraform : type.terraformType.isSome) :
    ∃ address, (d.context catalog (d.workingCopy catalog member)).address?
      (d.workingCopy catalog member).resource.id = some address := by
  obtain ⟨terraformType, hterraform⟩ := Option.isSome_iff_exists.mp hterraform
  have hfound : Member.find? (d.working catalog) (d.workingCopy catalog member).resource.id =
      some (d.workingCopy catalog member) :=
    (Member.find?_eq_some_iff (Diagram.nodup_id_working catalog hcheck)).mpr
      ⟨Diagram.workingCopy_mem_working catalog hcheck hm, rfl⟩
  have hidentity : member.identity.terraformType = some terraformType := by
    rw [Diagram.terraformType_of_mem_members hm,
      get?_types_catalog.mpr ⟨hregistered, htypeId.symm⟩]
    exact hterraform
  refine ⟨terraformType ++ "." ++ member.identity.label, ?_⟩
  rw [Context.address?, Diagram.context, hfound, Option.bind_some, Diagram.identity_workingCopy,
    Identity.address?, hidentity]
  rfl

end Registered

theorem not_failsFor_resourceGroup (hcheck : d.check = .ok ())
    (hm : member ∈ d.members catalog.types)
    (htypeId : member.resource.typeId = TypeId.resourceGroup) :
    ¬(d.compileConsistent catalog).FailsFor member.resource.id := by
  have hregistered : resourceGroupType ∈ resourceTypes := by simp [resourceTypes]
  apply not_failsFor_of_generate hcheck hm hregistered htypeId
  exact succeeds_generateResourceGroup_iff.mpr
    (isSome_present?_workingCopy hcheck hm hregistered htypeId (by decide) (by decide))

theorem not_failsFor_of_inGroup (hcheck : d.check = .ok ()) (hm : member ∈ d.members catalog.types)
    (htypeId : member.resource.typeId ∈ [TypeId.virtualNetwork, TypeId.networkSecurityGroup,
      TypeId.appServicePlan, TypeId.keyVault]) (hgroup : InGroup d member.resource) :
    ¬(d.compileConsistent catalog).FailsFor member.resource.id := by
  have hgrouped : [TypeId.virtualNetwork, TypeId.networkSecurityGroup, TypeId.appServicePlan,
      TypeId.keyVault] ⊆ TypeId.grouped := by decide
  have hplaced := placed_of_inGroup hcheck hm (hgrouped htypeId) hgroup
  simp only [List.mem_cons, List.not_mem_nil, or_false] at htypeId
  rcases htypeId with htypeId | htypeId | htypeId | htypeId
  · have hregistered : virtualNetworkType ∈ resourceTypes := by simp [resourceTypes]
    apply not_failsFor_of_generate hcheck hm hregistered htypeId
    exact succeeds_generateVirtualNetwork_iff.mpr ⟨hplaced,
      isSome_present?_workingCopy hcheck hm hregistered htypeId (by decide) (by decide)⟩
  · have hregistered : networkSecurityGroupType ∈ resourceTypes := by simp [resourceTypes]
    apply not_failsFor_of_generate hcheck hm hregistered htypeId
    exact succeeds_generateNetworkSecurityGroup_iff.mpr hplaced
  · have hregistered : appServicePlanType ∈ resourceTypes := by simp [resourceTypes]
    apply not_failsFor_of_generate hcheck hm hregistered htypeId
    exact succeeds_generateAppServicePlan_iff.mpr hplaced
  · have hregistered : keyVaultType ∈ resourceTypes := by simp [resourceTypes]
    apply not_failsFor_of_generate hcheck hm hregistered htypeId
    exact succeeds_generateKeyVault_iff.mpr hplaced

/-- The ends of an edge by which a network holds a subnet. -/
def subnetEnds : Endpoints := ⟨TypeId.virtualNetwork, "subnets", TypeId.subnet, "vnet-in"⟩

/-- The ends of an edge by which a plan hosts a web app. -/
def hostingEnds : Endpoints := ⟨TypeId.appServicePlan, "apps-out", TypeId.appService, "plan-in"⟩

theorem typeId_of_leadsTo {endpoints : Endpoints} {node : Resource}
    (h : d.LeadsTo endpoints node) : node.typeId = endpoints.targetType := by
  obtain ⟨edge, _, source, _, _, _, rfl⟩ := h
  rfl

theorem not_failsFor_subnet (hcheck : d.check = .ok ()) (hm : member ∈ d.members catalog.types)
    (hnetwork : d.LeadsTo subnetEnds member.resource) :
    ¬(d.compileConsistent catalog).FailsFor member.resource.id := by
  have htypeId : member.resource.typeId = subnetType.typeId := typeId_of_leadsTo hnetwork
  have hregistered : subnetType ∈ resourceTypes := by simp [resourceTypes]
  have hrule : subnetRule ∈ connectionRules := by simp [connectionRules]
  obtain ⟨network, name, hword, hreference⟩ :=
    exists_reference_of_leadsTo hcheck hm hrule rfl hnetwork
  obtain ⟨address, haddress⟩ := exists_address?_context hcheck hm hregistered htypeId rfl
  apply not_failsFor_of_generate hcheck hm hregistered htypeId
  apply succeeds_generateSubnet haddress
  · rw [besideReference?_of_reference hword hreference]
    exact .inr rfl
  · exact Option.isSome_of_eq_some hreference
  · exact isSome_present?_workingCopy hcheck hm hregistered htypeId (by decide) (by decide)

theorem not_failsFor_appService (hcheck : d.check = .ok ()) (hm : member ∈ d.members catalog.types)
    (hgroup : InGroup d member.resource) (hplan : d.LeadsTo hostingEnds member.resource) :
    ¬(d.compileConsistent catalog).FailsFor member.resource.id := by
  have htypeId : member.resource.typeId = appServiceType.typeId := typeId_of_leadsTo hplan
  have hregistered : appServiceType ∈ resourceTypes := by simp [resourceTypes]
  have hrule : hostingRule ∈ connectionRules := by simp [connectionRules]
  have hplaced := placed_of_inGroup hcheck hm (htypeId ▸ by decide) hgroup
  obtain ⟨address, name, _, hreference⟩ :=
    exists_reference_of_leadsTo hcheck hm hrule rfl hplan
  apply not_failsFor_of_generate hcheck hm hregistered htypeId
  exact succeeds_generateAppService_iff.mpr ⟨hplaced, Option.isSome_of_eq_some hreference⟩

theorem failsFor_storageAccount_iff (hcheck : d.check = .ok ())
    (hm : member ∈ d.members catalog.types)
    (htypeId : member.resource.typeId = TypeId.storageAccount)
    (hgroup : InGroup d member.resource) :
    (d.compileConsistent catalog).FailsFor member.resource.id ↔ ¬IsAccountName
      (d.naming.resolve storageAccountType.constraints member.resource.name) := by
  have hregistered : storageAccountType ∈ resourceTypes := by simp [resourceTypes]
  have hplaced := placed_of_inGroup hcheck hm (htypeId ▸ by decide) hgroup
  have hname : (d.context catalog (d.workingCopy catalog member)).resolvedName =
      d.naming.resolve storageAccountType.constraints member.resource.name := by
    rw [Context.resolvedName, Diagram.context, Diagram.identity_workingCopy,
      Diagram.resolvedName_of_mem_members hm,
      get?_types_catalog.mpr ⟨hregistered, htypeId.symm⟩]
    rfl
  rw [failsFor_iff_generate hcheck hm hregistered htypeId, ← hname, ← checkAccountName_eq_ok_iff]
  exact not_congr (succeeds_generateStorageAccount_iff.trans (and_iff_left hplaced))

theorem failsFor_publicIp_iff (hcheck : d.check = .ok ()) (hm : member ∈ d.members catalog.types)
    (htypeId : member.resource.typeId = TypeId.publicIp) (hgroup : InGroup d member.resource) :
    (d.compileConsistent catalog).FailsFor member.resource.id ↔ Misallocated
      ((member.resource.present? "allocation_method").getD (.string "Static"))
      ((member.resource.present? "sku").getD (.string "Standard")) := by
  have hregistered : publicIpType ∈ resourceTypes := by simp [resourceTypes]
  have hplaced := placed_of_inGroup hcheck hm (htypeId ▸ by decide) hgroup
  have hallocation : (d.workingCopy catalog member).resource.present? "allocation_method" =
      some ((member.resource.present? "allocation_method").getD (.string "Static")) := by
    rw [present?_workingCopy_of_unconnected hcheck hm hregistered htypeId (by decide)]
    cases member.resource.present? "allocation_method" <;> rfl
  have hsku : (d.workingCopy catalog member).resource.present? "sku" =
      some ((member.resource.present? "sku").getD (.string "Standard")) := by
    rw [present?_workingCopy_of_unconnected hcheck hm hregistered htypeId (by decide)]
    cases member.resource.present? "sku" <;> rfl
  have hmethod := exists_allocationMethod_iff hallocation (Option.filter_eq_some_iff.mp hsku).1
  rw [failsFor_iff_generate hcheck hm hregistered htypeId]
  exact (not_congr (succeeds_generatePublicIp_iff.trans
    ((and_iff_left hplaced).trans hmethod))).trans not_not

end Diagrams

/-- In a consistent diagram generation fails for none of the resources that are connected as their
types ask for, whatever else stands in the diagram; an account fails for its name alone, and a public
address for its allocation. -/
theorem connected_resources_generate (d : Diagram) (hcheck : d.check = .ok ()) :
    ∃ c, d.compile catalog = .ok c ∧ ∀ node ∈ d.nodes,
      (node.typeId = TypeId.resourceGroup → ¬c.FailsFor node.id) ∧
      (node.typeId ∈ [TypeId.virtualNetwork, TypeId.networkSecurityGroup, TypeId.appServicePlan,
        TypeId.keyVault] → InGroup d node → ¬c.FailsFor node.id) ∧
      (d.LeadsTo subnetEnds node → ¬c.FailsFor node.id) ∧
      (InGroup d node → d.LeadsTo hostingEnds node → ¬c.FailsFor node.id) ∧
      (node.typeId = TypeId.storageAccount → InGroup d node →
        (c.FailsFor node.id ↔
          ¬IsAccountName (d.naming.resolve storageAccountType.constraints node.name))) ∧
      (node.typeId = TypeId.publicIp → InGroup d node →
        (c.FailsFor node.id ↔
          Misallocated ((node.present? "allocation_method").getD (.string "Static"))
            ((node.present? "sku").getD (.string "Standard")))) := by
  refine ⟨_, Diagram.compile_eq_ok_iff.mpr ⟨hcheck, rfl⟩, fun node hnode => ?_⟩
  obtain ⟨member, hm, rfl⟩ := Diagram.exists_member_of_mem_nodes hnode catalog.types
  exact ⟨not_failsFor_resourceGroup hcheck hm, not_failsFor_of_inGroup hcheck hm,
    not_failsFor_subnet hcheck hm, not_failsFor_appService hcheck hm,
    failsFor_storageAccount_iff hcheck hm, failsFor_publicIp_iff hcheck hm⟩

/-- A group with an account whose name is too short and an address of the standard kind that is not
fixed, and a subnet whose network is in no group. -/
def groupedDiagram : Diagram where
  nodes :=
    [{ id := "rg", typeId := TypeId.resourceGroup, name := "rg"
       properties := Dictionary.empty.insert "location" (.list []) },
     { id := "net", typeId := TypeId.virtualNetwork, name := "net" },
     { id := "subnet", typeId := TypeId.subnet, name := "apps"
       properties := Dictionary.empty.insert "resource_group_name" (.string "") },
     { id := "account", typeId := TypeId.storageAccount, name := "st" },
     { id := "ip", typeId := TypeId.publicIp, name := "ip"
       properties := Dictionary.ofList
         [("allocation_method", .string "Dynamic"), ("sku", .bool true)] }]
  edges :=
    [⟨"e1", "net", "subnets", "subnet", "vnet-in"⟩, ⟨"e2", "rg", "resources", "account", "rg-in"⟩,
     ⟨"e3", "rg", "resources", "ip", "rg-in"⟩]

theorem connected_resources_generate_grouped : groupedDiagram.check = .ok () ∧
    ∃ c, groupedDiagram.compile catalog = .ok c ∧ ¬c.FailsFor "rg" ∧ ¬c.FailsFor "subnet" ∧
      c.FailsFor "account" ∧ c.FailsFor "ip" := by
  have hcheck : groupedDiagram.check = .ok () := by decide
  have hlength : groupedDiagram.nodes.length = 5 := rfl
  have hshort : ¬IsAccountName "st" := fun h => absurd h.1 (by decide)
  have hdynamic : Misallocated (.string "Dynamic") (.bool true) := .inr ⟨rfl, by decide⟩
  obtain ⟨c, hc, hnodes⟩ := connected_resources_generate groupedDiagram hcheck
  obtain ⟨hgroup, _⟩ := hnodes groupedDiagram.nodes[0] (List.getElem_mem _)
  obtain ⟨_, _, hsubnet, _⟩ := hnodes groupedDiagram.nodes[2] (List.getElem_mem _)
  obtain ⟨_, _, _, _, haccount, _⟩ := hnodes groupedDiagram.nodes[3] (List.getElem_mem _)
  obtain ⟨_, _, _, _, _, hip⟩ := hnodes groupedDiagram.nodes[4] (List.getElem_mem _)
  refine ⟨hcheck, c, hc, hgroup rfl, hsubnet ?_, (haccount rfl ?_).mpr hshort,
    (hip rfl ?_).mpr hdynamic⟩
  · exact ⟨_, List.mem_cons_self, groupedDiagram.nodes[1], List.getElem_mem _, rfl, rfl, rfl⟩
  · exact ⟨_, List.mem_cons_of_mem _ List.mem_cons_self, groupedDiagram.nodes[0],
      List.getElem_mem _, rfl, rfl, rfl⟩
  · exact ⟨_, List.mem_cons_of_mem _ (List.mem_cons_of_mem _ List.mem_cons_self),
      groupedDiagram.nodes[0], List.getElem_mem _, rfl, rfl, rfl⟩

end Azure

end Groundplan
