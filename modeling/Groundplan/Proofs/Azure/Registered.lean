import Groundplan.Azure.Catalog
import Groundplan.Proofs.Collecting
import Groundplan.Proofs.Composition

/-!
# What the Azure catalog holds

Ten types under ten ids, one provider, and rules no two of which are for the same ends. Every rule
that creates a reference writes it into the target of an edge, under one of five keys.
-/

namespace Groundplan.Azure

/-- The types of the catalog in the order of their registration. -/
def resourceTypes : List ResourceType :=
  [subscriptionType, resourceGroupType, virtualNetworkType, subnetType, networkSecurityGroupType,
   publicIpType, appServicePlanType, appServiceType, storageAccountType, keyVaultType]

/-- The rules of the catalog in the order of their registration. -/
def connectionRules : List Rule :=
  subscriptionRule :: TypeId.grouped.map groupingRule ++
    [subnetRule, securityGroupRule, hostingRule, integrationRule]

theorem ownTypes_plugins : plugins.flatMap (·.ownTypes) = resourceTypes := rfl

theorem nodup_typeId_resourceTypes : (resourceTypes.reverse.map (·.typeId)).Nodup := by decide

theorem eq_of_typeId_eq {a b : ResourceType} (ha : a ∈ resourceTypes) (hb : b ∈ resourceTypes)
    (h : a.typeId = b.typeId) : a = b := by
  have hfa := (find?_eq_some_iff_of_nodup (fun type : ResourceType => type.typeId)
    nodup_typeId_resourceTypes).mpr ⟨List.mem_reverse.mpr ha, h⟩
  have hfb := (find?_eq_some_iff_of_nodup (fun type : ResourceType => type.typeId)
    nodup_typeId_resourceTypes).mpr ⟨List.mem_reverse.mpr hb, rfl⟩
  exact Option.some.inj (hfa.symm.trans hfb)

theorem get?_types_catalog {typeId : String} {type : ResourceType} :
    catalog.types.get? typeId = some type ↔ type ∈ resourceTypes ∧ type.typeId = typeId := by
  rw [catalog, Catalog.get?_types_ofPlugins, ownTypes_plugins,
    find?_eq_some_iff_of_nodup (fun type : ResourceType => type.typeId)
      nodup_typeId_resourceTypes, List.mem_reverse]

theorem rules_catalog : catalog.rules = connectionRules :=
  Catalog.rules_ofPlugins plugins

theorem providers_catalog : catalog.providers = [provider] :=
  Catalog.providers_ofPlugins plugins

theorem nodup_endpoints_connectionRules : (connectionRules.map (·.endpoints)).Nodup := by decide

/-- The types and keys into which connections write. -/
def connectedKeys : List (String × String) :=
  TypeId.grouped.map (·, "resource_group_name") ++
    [(TypeId.subnet, "virtual_network_name"), (TypeId.subnet, "network_security_group_id"),
     (TypeId.appService, "service_plan_id"), (TypeId.appService, "virtual_network_subnet_id")]

/-- The types to which connections refer. -/
def referredTypes : List ResourceType :=
  [resourceGroupType, virtualNetworkType, subnetType, networkSecurityGroupType, appServicePlanType]

/-- A rule that creates a reference writes a word of the source into the target. -/
def Refers (rule : Rule) : Prop :=
  ∀ directive ∈ rule.reference, directive.side = .target ∧
    (directive.attributeOrId = "id" ∨ directive.attributeOrId = "name") ∧
    (rule.endpoints.targetType, directive.key) ∈ connectedKeys ∧
    rule.endpoints.sourceType ∈ referredTypes.map (·.typeId)

theorem refers_groupingRule {typeId : String} (h : typeId ∈ TypeId.grouped) :
    Refers (groupingRule typeId) := by
  intro directive hdirective
  cases hdirective
  exact ⟨rfl, .inr rfl, List.mem_append_left _ (List.mem_map.mpr ⟨typeId, h, rfl⟩),
    List.mem_cons_self⟩

theorem refers_of_mem_rules {rule : Rule} (h : rule ∈ catalog.rules) : Refers rule := by
  rw [rules_catalog, connectionRules, List.mem_append, List.mem_cons] at h
  rcases h with (rfl | h) | h
  · intro directive hdirective
    cases hdirective
  · obtain ⟨typeId, htypeId, rfl⟩ := List.mem_map.mp h
    exact refers_groupingRule htypeId
  · simp only [List.mem_cons, List.not_mem_nil, or_false] at h
    rcases h with rfl | rfl | rfl | rfl
    all_goals
      intro directive hdirective
      cases hdirective
      exact ⟨rfl, by decide, by decide, by decide⟩

end Groundplan.Azure
