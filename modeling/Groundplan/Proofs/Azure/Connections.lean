import Groundplan.Proofs.Azure.Expressions
import Groundplan.Proofs.Azure.Registered
import Groundplan.Proofs.Isolation
import Groundplan.Proofs.Labels
import Groundplan.Proofs.References

/-!
# Realised connections

A connection that creates a reference shows in the configuration: the receiver's blocks hold the key
once, and its value is the expression for the other end. It takes precedence over what the user has
entered for that key and over the mode chosen for it.
-/

namespace Groundplan

/-- The end of an edge that receives a reference, and the other end. -/
def Side.ends (side : Side) (source target : Member) : Member × Member :=
  match side with
  | .source => (source, target)
  | .target => (target, source)

/-- Whether a rule has an edge write a reference to one member of a diagram into another one. -/
def Diagram.Connects (d : Diagram) (catalog : Catalog) (edge : Edge)
    (directive : ReferenceDirective) (receiver other : Member) : Prop :=
  ∃ source ∈ d.members catalog.types, ∃ target ∈ d.members catalog.types,
    source.resource.id = edge.source ∧ target.resource.id = edge.target ∧
    (∃ rule ∈ catalog.rules, rule.endpoints = edge.endpoints source.resource target.resource ∧
      rule.reference = some directive) ∧
    directive.side.ends source target = (receiver, other)

theorem ReferenceDirective.writing_of_ends {directive : ReferenceDirective}
    {source target receiver other : Member}
    (h : directive.side.ends source target = (receiver, other)) :
    directive.writing source target = ⟨receiver.resource.id, directive.key,
      other.identity.reference directive.attributeOrId⟩ := by
  unfold ReferenceDirective.writing
  unfold Side.ends at h
  cases hside : directive.side with
  | source =>
    rw [hside] at h
    cases h
    rfl
  | target =>
    rw [hside] at h
    cases h
    rfl

namespace Diagram

variable {d : Diagram} {catalog : Catalog} {edge : Edge} {directive : ReferenceDirective}
  {receiver other : Member}

theorem Connects.receiver_mem (h : d.Connects catalog edge directive receiver other) :
    receiver ∈ d.members catalog.types := by
  obtain ⟨source, hsource, target, htarget, _, _, _, hends⟩ := h
  unfold Side.ends at hends
  split at hends
  · cases hends
    exact hsource
  · cases hends
    exact htarget

theorem Connects.writing? (hcheck : d.check = .ok ())
    (hrules : (catalog.rules.map (·.endpoints)).Nodup)
    (h : d.Connects catalog edge directive receiver other) :
    edge.writing? catalog.rules (d.members catalog.types) = some ⟨receiver.resource.id,
      directive.key, other.identity.reference directive.attributeOrId⟩ := by
  obtain ⟨source, hsource, target, htarget, hs, ht, ⟨rule, hrule, hendpoints, hdirective⟩, hends⟩ := h
  have hn := nodup_id_members catalog hcheck
  rw [Edge.writing?, (Member.find?_eq_some_iff hn).mpr ⟨hsource, hs⟩,
    (Member.find?_eq_some_iff hn).mpr ⟨htarget, ht⟩]
  dsimp only
  rw [← hendpoints, Rule.resolve_of_nodup hrules hrule]
  simp only [Resolution.rule?, Option.bind_some, hdirective, Option.map_some]
  rw [directive.writing_of_ends hends]

theorem exists_connects_of_writing? {w : Writing}
    (h : edge.writing? catalog.rules (d.members catalog.types) = some w) :
    ∃ directive receiver other, d.Connects catalog edge directive receiver other ∧
      w.receiver = receiver.resource.id ∧ w.key = directive.key := by
  obtain ⟨source, hsource, target, htarget, rule, hrule, directive, hs, ht, hendpoints, hdirective,
    rfl⟩ := Edge.writing?_eq_some h
  refine ⟨directive, _, _, ⟨source, hsource, target, htarget, ?_, ?_,
    ⟨rule, hrule, hendpoints, hdirective⟩, rfl⟩, ?_, ?_⟩
  · simpa using List.find?_some hs
  · simpa using List.find?_some ht
  · rw [directive.writing_of_ends rfl]
  · rw [directive.writing_of_ends rfl]

theorem Connects.lastWriting? (hcheck : d.check = .ok ())
    (hrules : (catalog.rules.map (·.endpoints)).Nodup) {before after : List Edge}
    (hedges : d.edges = before ++ edge :: after)
    (h : d.Connects catalog edge directive receiver other)
    (hlast : ∀ later ∈ after, ∀ directive' other',
      d.Connects catalog later directive' receiver other' → directive'.key ≠ directive.key) :
    lastWriting? (d.writings catalog) receiver.resource.id directive.key =
      some ⟨receiver.resource.id, directive.key,
        other.identity.reference directive.attributeOrId⟩ := by
  have hsplit : d.writings catalog =
      before.filterMap (·.writing? catalog.rules (d.members catalog.types)) ++
        ⟨receiver.resource.id, directive.key, other.identity.reference directive.attributeOrId⟩ ::
          after.filterMap (·.writing? catalog.rules (d.members catalog.types)) := by
    rw [writings, hedges, List.filterMap_append, List.filterMap_cons_some (h.writing? hcheck hrules)]
  have hlater : (after.filterMap (·.writing? catalog.rules (d.members catalog.types))).reverse.find?
      (fun w => w.receiver == receiver.resource.id && w.key == directive.key) = none := by
    rw [List.find?_eq_none]
    intro w hw hmatches
    obtain ⟨later, hmem, hwriting⟩ := List.mem_filterMap.mp (List.mem_reverse.mp hw)
    obtain ⟨directive', receiver', other', hconnects, hid, hkey⟩ :=
      exists_connects_of_writing? hwriting
    obtain ⟨hsame, hkeys⟩ : w.receiver = receiver.resource.id ∧ w.key = directive.key := by
      simpa using hmatches
    have hreceiver : receiver' = receiver := Member.eq_of_id_eq (nodup_id_members catalog hcheck)
      hconnects.receiver_mem h.receiver_mem (hid.symm.trans hsame)
    rw [hreceiver] at hconnects
    exact hlast later hmem directive' other' hconnects (hkey.symm.trans hkeys)
  rw [Groundplan.lastWriting?, hsplit, List.reverse_append, List.reverse_cons, List.append_assoc,
    List.find?_append, hlater, List.singleton_append,
    List.find?_cons_of_pos (by simp), Option.none_or]

end Diagram

/-- Whether a key occurs once in some blocks: with the given value, in a resource of the given type
and label. -/
structure SoleAttribute (blocks : List Block) (terraformType label key : String) (value : Value) :
    Prop where
  unique : (blocks.flatMap (·.attributes)).filter (·.1 == key) = [(key, value)]
  place : ∃ b ∈ blocks, b.type = "resource" ∧ b.labels = [terraformType, label] ∧
    (key, value) ∈ b.attributes

theorem SoleAttribute.of_declares {blocks : List Block} {b : Block}
    {terraformType label key : String} {value : Value} (before after : List Block)
    (first rest : List (String × Value)) (hblocks : blocks = before ++ b :: after)
    (hbefore : key ∉ (before.flatMap (·.attributes)).map (·.1))
    (hb : b.Declares "resource" [terraformType, label] (first ++ (key, value) :: rest))
    (hfirst : key ∉ first.map (·.1)) (hrest : key ∉ rest.map (·.1))
    (hafter : key ∉ (after.flatMap (·.attributes)).map (·.1)) :
    SoleAttribute blocks terraformType label key value where
  unique := by
    rw [hblocks, List.flatMap_append, List.flatMap_cons, hb.attributes_eq, List.filter_append,
      List.filter_append, List.filter_append, filter_key_eq_nil hbefore, filter_key_eq_nil hfirst,
      filter_key_eq_nil hafter, List.filter_cons_of_pos (by simp), filter_key_eq_nil hrest]
    rfl
  place := by
    refine ⟨b, hblocks ▸ List.mem_append_right _ List.mem_cons_self, hb.type_eq, hb.labels_eq, ?_⟩
    rw [hb.attributes_eq]
    exact List.mem_append_right _ List.mem_cons_self

namespace Azure

/-- The type of the block in which a key stands that a connection writes. The security group of a
subnet stands in an association of its own. -/
def holdingType (terraformType key : String) : String :=
  if key = "network_security_group_id" then "azurerm_subnet_network_security_group_association"
  else terraformType

section Generators

variable {r : Resource} {c : Context} {declared : List Declaration} {blocks : List Block}
  {key e : String}

theorem resourceGroupName_eq_expression (hr : r.present? "resource_group_name" = some (.reference e))
    {group : Value} (h : resourceGroupName r = .ok group) : group = .expression e := by
  obtain ⟨property, hproperty, rfl⟩ := resourceGroupName_eq_ok_iff.mp h
  rw [hr] at hproperty
  cases hproperty
  rfl

theorem sole_placement (hr : r.present? "resource_group_name" = some (.reference e))
    {group place : Value} (hgroup : resourceGroupName r = .ok group) {b : Block}
    {terraformType : String} {rest : List (String × Value)}
    (hb : b.Declares "resource" [terraformType, c.label] (placement c group place ++ rest))
    (hrest : "resource_group_name" ∉ rest.map (·.1)) :
    SoleAttribute [b] terraformType c.label "resource_group_name" (.expression e) := by
  obtain rfl := resourceGroupName_eq_expression hr hgroup
  exact .of_declares [] [] [("name", .string c.resolvedName)] (("location", place) :: rest) rfl
    (by simp) hb (by simp) (by simpa using hrest) (by simp)

theorem copied_of_present (hr : r.present? key = some (.reference e)) :
    copied r key = [(key, .expression e)] := by
  rw [copied, hr]
  rfl

theorem notMem_siteConfig (hkey : key ∉ siteKeys) :
    key ∉ (siteConfig r).attributes.map (·.1) := by
  intro hmem
  obtain ⟨a, ha, rfl⟩ := List.mem_map.mp hmem
  exact hkey (siteConfig_attributes r a ha).1

theorem sole_generateSubnet
    (hkey : key ∈ ["resource_group_name", "virtual_network_name", "network_security_group_id"])
    (hr : r.present? key = some (.reference e))
    (h : generateSubnet r c = ⟨declared, .ok blocks⟩) :
    SoleAttribute blocks (holdingType "azurerm_subnet" key) c.label key (.expression e) := by
  obtain ⟨group, network, ranges, hgroup, hnetwork, hranges, _, b, hb, hassociation⟩ :=
    generateSubnet_eq_ok h
  have hafter : ∃ after : List Block, blocks = b :: after ∧
      "resource_group_name" ∉ (after.flatMap (·.attributes)).map (·.1) ∧
      "virtual_network_name" ∉ (after.flatMap (·.attributes)).map (·.1) := by
    rcases hassociation with ⟨_, rfl⟩ | ⟨_, _, association, _, _, rfl, hdeclares⟩
    · exact ⟨[], rfl, List.not_mem_nil, List.not_mem_nil⟩
    · exact ⟨[association], rfl, by simp [hdeclares.attributes_eq],
        by simp [hdeclares.attributes_eq]⟩
  obtain ⟨after, hblocks, hnogroup, hnonetwork⟩ := hafter
  simp only [List.mem_cons, List.not_mem_nil, or_false] at hkey
  rcases hkey with rfl | rfl | rfl
  · have hvalue : group = .expression e := by
      obtain ⟨own, hown⟩ : ∃ own, resourceGroupName r = .ok own :=
        ⟨_, resourceGroupName_eq_ok_iff.mpr ⟨_, hr, rfl⟩⟩
      rw [subnetResourceGroup, hown] at hgroup
      cases hgroup
      exact resourceGroupName_eq_expression hr hown
    obtain rfl := hvalue
    exact .of_declares [] after [("name", .string c.resolvedName)] _ hblocks (by simp) hb (by simp)
      (by simp [copied]) hnogroup
  · rw [hr] at hnetwork
    cases hnetwork
    exact .of_declares [] after [("name", .string c.resolvedName), ("resource_group_name", group)] _
      hblocks (by simp) hb (by simp) (by simp [copied]) hnonetwork
  · rcases hassociation with ⟨hnone, _⟩ | ⟨_, subnetId, association, hsome, _, hboth, hdeclares⟩
    · rw [hr] at hnone
      cases hnone
    · rw [hr] at hsome
      cases hsome
      exact .of_declares [b] [] [("subnet_id", .expression subnetId)] [] hboth
        (by simp [hb.attributes_eq, copied]) hdeclares (by simp) (by simp) (by simp)

theorem sole_generateAppService
    (hkey : key ∈ ["resource_group_name", "service_plan_id", "virtual_network_subnet_id"])
    (hr : r.present? key = some (.reference e))
    (h : generateAppService r c = ⟨declared, .ok blocks⟩) :
    SoleAttribute blocks "azurerm_linux_web_app" c.label key (.expression e) := by
  obtain ⟨group, place, plan, hgroup, _, hplan, _, b, rfl, hb⟩ := generateAppService_eq_ok h
  have hsite : key ∉ (siteConfig r).attributes.map (·.1) := by
    apply notMem_siteConfig
    simp only [List.mem_cons, List.not_mem_nil, or_false] at hkey
    rcases hkey with rfl | rfl | rfl <;> decide
  simp only [List.append_assoc] at hb
  simp only [List.mem_cons, List.not_mem_nil, or_false] at hkey
  rcases hkey with rfl | rfl | rfl
  · exact sole_placement hr hgroup hb (by simp [copied, tagging, hsite])
  · rw [hr] at hplan
    cases hplan
    exact .of_declares [] [] (placement c group place) _ rfl (by simp) hb (by simp [placement])
      (by simp [copied, tagging, hsite]) (by simp)
  · rw [copied_of_present hr, ← List.append_assoc] at hb
    exact .of_declares [] [] _ _ rfl (by simp) hb (by simp [placement])
      (by simp [tagging, hsite]) (by simp)

theorem sole_generate_group {type : ResourceType} (htype : type ∈ resourceTypes)
    (hgrouped : type.typeId ∈ TypeId.grouped)
    (hr : r.present? "resource_group_name" = some (.reference e))
    (h : type.generate r c = ⟨declared, .ok blocks⟩) :
    ∃ terraformType, type.terraformType = some terraformType ∧
      SoleAttribute blocks terraformType c.label "resource_group_name" (.expression e) := by
  simp only [resourceTypes, List.mem_cons, List.not_mem_nil, or_false] at htype
  rcases htype with rfl | rfl | rfl | rfl | rfl | rfl | rfl | rfl | rfl | rfl
  · exact absurd hgrouped (by decide)
  · exact absurd hgrouped (by decide)
  · obtain ⟨_, _, _, hgroup, _, _, _, b, rfl, hb⟩ := generateVirtualNetwork_eq_ok h
    simp only [List.append_assoc] at hb
    exact ⟨_, rfl, sole_placement hr hgroup hb (by simp [copied, tagging])⟩
  · exact ⟨_, rfl, sole_generateSubnet (by simp) hr h⟩
  · obtain ⟨_, _, hgroup, _, _, b, rfl, hb⟩ := generateNetworkSecurityGroup_eq_ok h
    exact ⟨_, rfl, sole_placement hr hgroup hb (by simp [tagging])⟩
  · obtain ⟨_, _, _, hgroup, _, _, _, b, rfl, hb⟩ := generatePublicIp_eq_ok h
    simp only [List.append_assoc] at hb
    exact ⟨_, rfl, sole_placement hr hgroup hb (by simp [copied, tagging])⟩
  · obtain ⟨_, _, hgroup, _, _, b, rfl, hb⟩ := generateAppServicePlan_eq_ok h
    simp only [List.append_assoc] at hb
    exact ⟨_, rfl, sole_placement hr hgroup hb (by simp [settingAttribute, tagging])⟩
  · exact ⟨_, rfl, sole_generateAppService (by simp) hr h⟩
  · obtain ⟨_, _, _, hgroup, _, _, b, rfl, hb⟩ := generateStorageAccount_eq_ok h
    simp only [List.append_assoc] at hb
    exact ⟨_, rfl, sole_placement hr hgroup hb (by simp [settingAttribute, copied, tagging])⟩
  · obtain ⟨_, _, hgroup, _, _, client, vault, rfl, hclient, hvault⟩ := generateKeyVault_eq_ok h
    simp only [List.append_assoc] at hvault
    obtain ⟨hunique, b, hb, hplace⟩ :=
      sole_placement hr hgroup hvault (by simp [settingAttribute, tagging])
    refine ⟨_, rfl, ?_, b, List.mem_cons_of_mem _ hb, hplace⟩
    rw [List.flatMap_cons, hclient.attributes_eq, List.nil_append]
    exact hunique

/-- Whatever a connection can write, the generator of the type writes it once and as it is. -/
theorem sole_generate {type : ResourceType} (htype : type ∈ resourceTypes)
    (hkey : (type.typeId, key) ∈ connectedKeys) (hr : r.present? key = some (.reference e))
    (h : type.generate r c = ⟨declared, .ok blocks⟩) :
    ∃ terraformType, type.terraformType = some terraformType ∧
      SoleAttribute blocks (holdingType terraformType key) c.label key (.expression e) := by
  rcases List.mem_append.mp hkey with hgrouped | hown
  · obtain ⟨typeId, htypeId, heq⟩ := List.mem_map.mp hgrouped
    cases heq
    exact sole_generate_group htype htypeId hr h
  · have hunique : ∀ other ∈ resourceTypes, other.typeId = type.typeId → type = other :=
      fun other hother heq => eq_of_typeId_eq htype hother heq.symm
    simp only [List.mem_cons, Prod.mk.injEq, List.not_mem_nil, or_false] at hown
    rcases hown with ⟨htypeId, rfl⟩ | ⟨htypeId, rfl⟩ | ⟨htypeId, rfl⟩ | ⟨htypeId, rfl⟩
    · obtain rfl := hunique subnetType (by simp [resourceTypes]) htypeId.symm
      exact ⟨_, rfl, sole_generateSubnet (by simp) hr h⟩
    · obtain rfl := hunique subnetType (by simp [resourceTypes]) htypeId.symm
      exact ⟨_, rfl, sole_generateSubnet (by simp) hr h⟩
    · obtain rfl := hunique appServiceType (by simp [resourceTypes]) htypeId.symm
      exact ⟨_, rfl, sole_generateAppService (by simp) hr h⟩
    · obtain rfl := hunique appServiceType (by simp [resourceTypes]) htypeId.symm
      exact ⟨_, rfl, sole_generateAppService (by simp) hr h⟩

end Generators

theorem reference_of_referred {d : Diagram} {other : Member}
    (hmem : other ∈ d.members catalog.types)
    (htype : other.resource.typeId ∈ referredTypes.map (·.typeId)) (name : String) :
    ∃ terraformType, other.identity.terraformType = some terraformType ∧
      other.identity.reference name =
        .reference (terraformType ++ "." ++ other.identity.label ++ "." ++ name) := by
  obtain ⟨type, hreferred, htypeId⟩ := List.mem_map.mp htype
  have hall : ∀ type ∈ referredTypes, type.terraformType.isSome = true := by decide
  have hsub : referredTypes ⊆ resourceTypes := by
    intro type h
    simp only [referredTypes, List.mem_cons, List.not_mem_nil, or_false] at h
    rcases h with rfl | rfl | rfl | rfl | rfl <;> simp [resourceTypes]
  obtain ⟨terraformType, hterraform⟩ := Option.isSome_iff_exists.mp (hall type hreferred)
  have hidentity : other.identity.terraformType = some terraformType := by
    rw [Diagram.terraformType_of_mem_members hmem,
      get?_types_catalog.mpr ⟨hsub hreferred, htypeId⟩]
    exact hterraform
  refine ⟨terraformType, hidentity, ?_⟩
  rw [Identity.reference, Identity.address?, hidentity]
  rfl

/-- The last connection that writes a property of a resource is realised in the configuration if the
resource is generated at all. Nothing is asked of the properties and modes of the resource. -/
theorem compile_realises_connections (d : Diagram) (c : Compiled)
    (hc : d.compile catalog = .ok c) {before after : List Edge} {edge : Edge}
    (hedges : d.edges = before ++ edge :: after) {directive : ReferenceDirective}
    {receiver other : Member} (hconnects : d.Connects catalog edge directive receiver other)
    (hlast : ∀ later ∈ after, ∀ directive' other',
      d.Connects catalog later directive' receiver other' → directive'.key ≠ directive.key)
    (hreceiver : Finding.errorsAbout receiver.resource.id c.findings = []) :
    ∃ blocks earlier later,
      (d.generation catalog (d.workingCopy catalog receiver)).outcome = .ok blocks ∧
      c.blocks = earlier ++ blocks ++ later ∧
      ∃ receiverType otherType, receiver.identity.terraformType = some receiverType ∧
        other.identity.terraformType = some otherType ∧
        SoleAttribute blocks (holdingType receiverType directive.key) receiver.identity.label
          directive.key (.expression
            (otherType ++ "." ++ other.identity.label ++ "." ++ directive.attributeOrId)) := by
  obtain ⟨hcheck, rfl⟩ := Diagram.compile_eq_ok_iff.mp hc
  have hrules : (catalog.rules.map (·.endpoints)).Nodup := by
    rw [rules_catalog]
    exact nodup_endpoints_connectionRules
  have hwritten := hconnects.lastWriting? hcheck hrules hedges hlast
  have hmem := hconnects.receiver_mem
  have hworking : d.workingCopy catalog receiver ∈ d.working catalog := by
    rw [Diagram.working_eq catalog hcheck]
    exact List.mem_map_of_mem hmem
  have hsucceeds : (d.generation catalog (d.workingCopy catalog receiver)).succeeds = true := by
    have hreported := Diagram.errorsAbout_findings catalog hcheck hworking
    rw [Diagram.id_workingCopy, hreceiver] at hreported
    exact (d.failure?_eq_none_iff catalog _).mp (by simpa using hreported.symm)
  obtain ⟨blocks, hblocks⟩ := Generation.succeeds_iff.mp hsucceeds
  have hsuccess : d.workingCopy catalog receiver ∈ d.successes catalog :=
    List.mem_filter.mpr ⟨hworking, hsucceeds⟩
  obtain ⟨first, rest, hsuccesses⟩ := List.append_of_mem hsuccess
  refine ⟨blocks, first.flatMap fun m => (d.generation catalog m).results,
    rest.flatMap fun m => (d.generation catalog m).results, hblocks, ?_, ?_⟩
  · rw [Diagram.blocks_compileConsistent, hsuccesses, List.flatMap_append,
      List.flatMap_cons, Generation.results_of_ok hblocks, List.append_assoc]
  · obtain ⟨type, htype, hgenerate⟩ := d.exists_generate_eq catalog hsucceeds
    rw [Generation.results_of_ok hblocks] at hgenerate
    rw [Diagram.typeId_workingCopy] at htype
    obtain ⟨source, hsource, target, htarget, _, _, ⟨rule, hrule, hends, hdirective⟩, hsides⟩ :=
      hconnects
    obtain ⟨hside, _, hkey, hreferred⟩ := refers_of_mem_rules hrule directive hdirective
    rw [hside] at hsides
    cases hsides
    rw [hends] at hkey hreferred
    obtain ⟨otherType, hotherType, hreference⟩ :=
      reference_of_referred hsource hreferred directive.attributeOrId
    have hpresent := Diagram.present?_workingCopy catalog hwritten (by rw [hreference]; rfl)
    rw [hreference] at hpresent
    obtain ⟨hregistered, htypeId⟩ := get?_types_catalog.mp htype
    have hconnected : (type.typeId, directive.key) ∈ connectedKeys := htypeId ▸ hkey
    obtain ⟨receiverType, hterraform, hsole⟩ :=
      sole_generate hregistered hconnected hpresent hgenerate
    refine ⟨receiverType, otherType, ?_, hotherType, ?_⟩
    · rw [Diagram.terraformType_of_mem_members hmem, htype]
      exact hterraform
    · have hlabel : (d.context catalog (d.workingCopy catalog receiver)).label =
          receiver.identity.label := by
        rw [Context.label, Diagram.context, Diagram.identity_workingCopy]
      rw [← hlabel]
      exact hsole

/-- A subnet in a network with two security groups, one after the other, and one that was typed. -/
def securedDiagram : Diagram where
  nodes :=
    [{ id := "net", typeId := TypeId.virtualNetwork, name := "net" },
     { id := "a", typeId := TypeId.networkSecurityGroup, name := "first" },
     { id := "b", typeId := TypeId.networkSecurityGroup, name := "second" },
     { id := "subnet", typeId := TypeId.subnet, name := "apps"
       properties := Dictionary.empty.insert "network_security_group_id" (.string "typed")
       modes := Dictionary.empty.insert "network_security_group_id" .exposed }]
  edges :=
    [⟨"e1", "net", "subnets", "subnet", "vnet-in"⟩, ⟨"e2", "a", "nsg-out", "subnet", "nsg-in"⟩,
     ⟨"e3", "b", "nsg-out", "subnet", "nsg-in"⟩]

theorem compile_realises_connections_secured :
    ∃ c blocks earlier later, securedDiagram.compile catalog = .ok c ∧
      c.blocks = earlier ++ blocks ++ later ∧
      SoleAttribute blocks "azurerm_subnet_network_security_group_association" "apps"
        "network_security_group_id" (.expression "azurerm_network_security_group.second.id") := by
  let members := securedDiagram.members catalog.types
  have hlength : members.length = 4 := rfl
  have hconnects : securedDiagram.Connects catalog ⟨"e3", "b", "nsg-out", "subnet", "nsg-in"⟩
      ⟨.target, "network_security_group_id", none⟩ members[3] members[2] :=
    ⟨members[2], List.getElem_mem _, members[3], List.getElem_mem _, rfl, rfl,
      ⟨securityGroupRule, by rw [rules_catalog]; simp [connectionRules], rfl, rfl⟩, rfl⟩
  have herrors : Finding.errorsAbout "subnet"
      (securedDiagram.compileConsistent catalog).findings = [] := by decide +kernel
  have hedges : securedDiagram.edges = [⟨"e1", "net", "subnets", "subnet", "vnet-in"⟩,
      ⟨"e2", "a", "nsg-out", "subnet", "nsg-in"⟩] ++ ⟨"e3", "b", "nsg-out", "subnet", "nsg-in"⟩ :: [] :=
    rfl
  obtain ⟨blocks, earlier, later, _, hblocks, receiverType, otherType, hreceiver, hother, hsole⟩ :=
    compile_realises_connections securedDiagram _ rfl hedges hconnects
      (fun _ h => absurd h List.not_mem_nil) herrors
  cases hreceiver
  cases hother
  exact ⟨_, blocks, earlier, later, rfl, hblocks, hsole⟩

end Azure

end Groundplan
