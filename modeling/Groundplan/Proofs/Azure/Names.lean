import Groundplan.Proofs.Azure.Distinct
import Groundplan.Proofs.Azure.Success
import Groundplan.Proofs.Constraints

/-!
# Names of emitted resources

The name in the block of a resource is its resolved name, so it keeps the limits of its type as long
as the naming convention is in force. The name of a storage account is checked when its block is
generated and needs no convention for that.
-/

namespace Groundplan

/-- Whether a block, at any depth, gives just one name. -/
def Block.IsNamed (b : Block) (name : String) : Prop :=
  b.attributes.filter (·.1 == "name") = [("name", .string name)]

theorem Diagram.mem_blocks_of_resource {d : Diagram} {catalog : Catalog}
    (hproviders : Section ["provider"] (d.compileConsistent catalog).providers) {b : Block}
    (hb : b ∈ (d.compileConsistent catalog).documentBlocks) (htype : b.type = "resource") :
    b ∈ (d.compileConsistent catalog).blocks := by
  rw [Compiled.documentBlocks] at hb
  simp only [List.mem_cons, List.mem_append] at hb
  rcases hb with rfl | ((((hb | hb) | hb) | hb) | hb)
  · have hterraform := congrArg (·.1) (ProviderBlocks.heading_terraformBlock
      (ProviderBlocks.build catalog d.project ((d.working catalog).map (·.resource))).1 d.project)
    rw [terraform_compileConsistent] at htype
    exact absurd (htype.symm.trans hterraform) (by decide)
  · exact absurd (hproviders.types b hb) (by simp [htype])
  · have hlocals := Project.type_localsBlock? (Option.mem_toList.mp hb)
    exact absurd (htype.symm.trans hlocals) (by decide)
  · exact absurd ((section_variables d catalog).types b hb) (by simp [htype])
  · exact hb
  · exact absurd ((section_outputs d catalog).types b hb) (by simp [htype])

namespace Azure

section Generators

variable {r : Resource} {c : Context} {declared : List Declaration} {blocks : List Block}

theorem isNamed_of_declares {b : Block} {type : String} {labels : List String}
    {group place : Value} {rest : List (String × Value)}
    (hb : b.Declares type labels (placement c group place ++ rest))
    (hrest : "name" ∉ rest.map (·.1)) : b.IsNamed c.resolvedName := by
  rw [Block.IsNamed, hb.attributes_eq, List.filter_append, filter_key_eq_nil hrest]
  rfl

theorem isNamed_generateNetworkSecurityGroup
    (h : generateNetworkSecurityGroup r c = ⟨declared, .ok blocks⟩) :
    ∀ b ∈ blocks, b.IsNamed c.resolvedName := by
  obtain ⟨_, _, _, _, _, b, rfl, hb⟩ := generateNetworkSecurityGroup_eq_ok h
  rw [List.forall_mem_singleton]
  exact isNamed_of_declares hb (by simp [tagging])

theorem isNamed_generateAppService (h : generateAppService r c = ⟨declared, .ok blocks⟩) :
    ∀ b ∈ blocks, b.IsNamed c.resolvedName := by
  obtain ⟨_, _, _, _, _, _, _, b, rfl, hb⟩ := generateAppService_eq_ok h
  have hsite : "name" ∉ (siteConfig r).attributes.map (·.1) := notMem_siteConfig (by decide)
  simp only [List.append_assoc] at hb
  rw [List.forall_mem_singleton]
  exact isNamed_of_declares hb (by simp [copied, tagging, hsite])

theorem isNamed_generateStorageAccount (h : generateStorageAccount r c = ⟨declared, .ok blocks⟩) :
    ∀ b ∈ blocks, b.IsNamed c.resolvedName ∧ IsAccountName c.resolvedName := by
  obtain ⟨_, _, hname, _, _, _, b, rfl, hb⟩ := generateStorageAccount_eq_ok h
  simp only [List.append_assoc] at hb
  rw [List.forall_mem_singleton]
  exact ⟨isNamed_of_declares hb (by simp [settingAttribute, copied, tagging]),
    checkAccountName_eq_ok_iff.mp hname⟩

end Generators

section Diagrams

variable {d : Diagram} {type : ResourceType}

theorem exists_generate_of_heading (htype : type ∈ resourceTypes) {terraformType label : String}
    (hterraform : type.terraformType = some terraformType) {b : Block}
    (hb : b ∈ (d.compileConsistent catalog).documentBlocks)
    (hheading : b.heading = ("resource", [terraformType, label])) :
    ∃ m ∈ d.successes catalog, m.resource.typeId = type.typeId ∧ ∃ declared blocks,
      type.generate m.resource (d.context catalog m) = ⟨declared, .ok blocks⟩ ∧ b ∈ blocks := by
  have hblock := Diagram.mem_blocks_of_resource (section_providers d) hb (congrArg (·.1) hheading)
  rw [Diagram.blocks_compileConsistent] at hblock
  obtain ⟨m, hm, hresult⟩ := List.mem_flatMap.mp hblock
  obtain ⟨own, hown, hgenerate⟩ := d.exists_generate_eq catalog (List.mem_filter.mp hm).2
  obtain ⟨hregistered, hownId⟩ := get?_types_catalog.mp hown
  obtain ⟨kind, hkind, heq⟩ := List.mem_map.mp
    ((brings_generate hregistered hgenerate).headings.subset (List.mem_map_of_mem hresult))
  rw [hheading] at heq
  simp only [Prod.mk.injEq, List.cons.injEq] at heq
  have hkinds : kind ∈ blockKinds type := by
    have hpair : kind = ("resource", terraformType) := Prod.ext heq.1 heq.2.1
    rw [hpair, blockKinds, hterraform]
    simp
  obtain rfl := eq_of_typeId_eq hregistered htype
    (typeId_eq_of_mem_blockKinds hregistered htype hkind hkinds)
  exact ⟨m, hm, hownId.symm, _, _, hgenerate, hresult⟩

theorem exists_resolve_eq (hcheck : d.check = .ok ()) (htype : type ∈ resourceTypes) {m : Member}
    (hm : m ∈ d.successes catalog) (htypeId : m.resource.typeId = type.typeId) :
    ∃ name, (d.context catalog m).resolvedName = d.naming.resolve type.constraints name := by
  have hworking := (List.mem_filter.mp hm).1
  rw [Diagram.working_eq catalog hcheck] at hworking
  obtain ⟨member, hmember, rfl⟩ := List.mem_map.mp hworking
  rw [Diagram.typeId_workingCopy] at htypeId
  refine ⟨member.resource.name, ?_⟩
  rw [Context.resolvedName, Diagram.context, Diagram.identity_workingCopy,
    Diagram.resolvedName_of_mem_members hmember, get?_types_catalog.mpr ⟨htype, htypeId.symm⟩]
  rfl

theorem keeps_resolvedName (hcheck : d.check = .ok ()) (htype : type ∈ resourceTypes) {m : Member}
    (hm : m ∈ d.successes catalog) (htypeId : m.resource.typeId = type.typeId)
    (henabled : d.naming.enabled = true) {limits : NamingConstraints}
    (hlimits : type.constraints = some limits) :
    limits.Keeps (d.context catalog m).resolvedName := by
  obtain ⟨name, hname⟩ := exists_resolve_eq hcheck htype hm htypeId
  rw [hname, hlimits, Naming.resolve, if_pos henabled]
  exact limits.keeps_apply _

/-- A resource of a type with a greatest length gets a name no longer than that, as long as the
convention is in force. -/
theorem exists_short_name (hcheck : d.check = .ok ()) (henabled : d.naming.enabled = true)
    (htype : type ∈ resourceTypes) {terraformType label : String}
    (hterraform : type.terraformType = some terraformType) {limits : NamingConstraints}
    (hlimits : type.constraints = some limits) {length : Nat}
    (hlength : limits.maxLength = some length)
    (hnamed : ∀ {r c declared blocks}, type.generate r c = ⟨declared, .ok blocks⟩ →
      ∀ b ∈ blocks, b.IsNamed c.resolvedName)
    {b : Block} (hb : b ∈ (d.compileConsistent catalog).documentBlocks)
    (hheading : b.heading = ("resource", [terraformType, label])) :
    ∃ name, b.IsNamed name ∧ name.length ≤ length := by
  obtain ⟨m, hm, htypeId, declared, blocks, hgenerate, hmem⟩ :=
    exists_generate_of_heading htype hterraform hb hheading
  have hkeeps := keeps_resolvedName hcheck htype hm htypeId henabled hlimits
  exact ⟨_, hnamed hgenerate b hmem, hkeeps.length_le length hlength⟩

/-- A constrained name keeps its limits, and constraining it again changes nothing. So in whatever a
consistent diagram compiles to, the name of a security group and that of a web app are short enough
if the convention is in force, and that of a storage account is a valid one in any case. -/
theorem emitted_names_keep_limits (limits : NamingConstraints) (name : String) (d : Diagram) :
    (limits.Keeps (limits.apply name) ∧ limits.apply (limits.apply name) = limits.apply name) ∧
    (d.check = .ok () → ∃ c, d.compile catalog = .ok c ∧ ∀ b ∈ c.documentBlocks, ∀ label,
      (d.naming.enabled = true →
        b.heading = ("resource", ["azurerm_network_security_group", label]) →
        ∃ name, b.IsNamed name ∧ name.length ≤ 80) ∧
      (d.naming.enabled = true → b.heading = ("resource", ["azurerm_linux_web_app", label]) →
        ∃ name, b.IsNamed name ∧ name.length ≤ 60) ∧
      (b.heading = ("resource", ["azurerm_storage_account", label]) →
        ∃ name, b.IsNamed name ∧ IsAccountName name)) := by
  refine ⟨⟨limits.keeps_apply name, (limits.keeps_apply name).apply_eq⟩, fun hcheck => ?_⟩
  have hgroup : networkSecurityGroupType ∈ resourceTypes := by simp [resourceTypes]
  have happ : appServiceType ∈ resourceTypes := by simp [resourceTypes]
  have haccount : storageAccountType ∈ resourceTypes := by simp [resourceTypes]
  refine ⟨_, Diagram.compile_eq_ok_iff.mpr ⟨hcheck, rfl⟩, fun b hb label => ⟨?_, ?_, ?_⟩⟩
  · intro henabled hheading
    exact exists_short_name hcheck henabled hgroup rfl rfl rfl isNamed_generateNetworkSecurityGroup
      hb hheading
  · intro henabled hheading
    exact exists_short_name hcheck henabled happ rfl rfl rfl isNamed_generateAppService hb hheading
  · intro hheading
    obtain ⟨m, _, _, declared, blocks, hgenerate, hmem⟩ :=
      exists_generate_of_heading haccount rfl hb hheading
    exact ⟨_, isNamed_generateStorageAccount hgenerate b hmem⟩

theorem exists_heading_of_success (htype : type ∈ resourceTypes) {terraformType : String}
    (hterraform : type.terraformType = some terraformType)
    (hsuccess : type.typeId ∈ (d.successes catalog).map (·.resource.typeId)) :
    ∃ b ∈ (d.compileConsistent catalog).documentBlocks, ∃ label,
      b.heading = ("resource", [terraformType, label]) := by
  obtain ⟨m, hm, htypeId⟩ := List.mem_map.mp hsuccess
  obtain ⟨own, hown, hgenerate⟩ := d.exists_generate_eq catalog (List.mem_filter.mp hm).2
  obtain ⟨hregistered, hownId⟩ := get?_types_catalog.mp hown
  obtain rfl := eq_of_typeId_eq hregistered htype (hownId.trans htypeId)
  obtain ⟨b, hb, _, hdeclares⟩ := exists_declares_generate hregistered hterraform hgenerate
  refine ⟨b, ?_, _, hdeclares.heading_eq⟩
  rw [Compiled.documentBlocks, Diagram.blocks_compileConsistent]
  have hblocks : b ∈ (d.successes catalog).flatMap fun m => (d.generation catalog m).results :=
    List.mem_flatMap.mpr ⟨m, hm, hb⟩
  simp only [List.mem_cons, List.mem_append]
  exact .inr (.inl (.inr hblocks))

end Diagrams

/-- Resources whose names are longer than allowed, or hold what is not. -/
def verboseDiagram : Diagram where
  naming := { enabled := true }
  nodes :=
    [placedNode "guard" TypeId.networkSecurityGroup
       "guard-of-the-landing-zone-in-the-west-european-region-for-all-teams-and-their-services" [],
     placedNode "shop" TypeId.appService
       "shop-of-the-landing-zone-in-the-west-european-region-for-all-teams"
       [("service_plan_id", .reference "plan")],
     placedNode "lake" TypeId.storageAccount "Data-Lake" []]

theorem emitted_names_keep_limits_verbose : ∃ c, verboseDiagram.compile catalog = .ok c ∧
    (∃ b ∈ c.documentBlocks, ∃ label,
      b.heading = ("resource", ["azurerm_network_security_group", label]) ∧
        ∃ name, b.IsNamed name ∧ name.length ≤ 80) ∧
    (∃ b ∈ c.documentBlocks, ∃ label, b.heading = ("resource", ["azurerm_linux_web_app", label]) ∧
      ∃ name, b.IsNamed name ∧ name.length ≤ 60) ∧
    ∃ b ∈ c.documentBlocks, ∃ label, b.heading = ("resource", ["azurerm_storage_account", label]) ∧
      ∃ name, b.IsNamed name ∧ IsAccountName name := by
  have hsuccess : (verboseDiagram.successes catalog).map (·.resource.typeId) =
      [TypeId.networkSecurityGroup, TypeId.appService, TypeId.storageAccount] := by
    decide +kernel
  obtain ⟨c, hc, hnames⟩ := (emitted_names_keep_limits {} "" verboseDiagram).2 (by decide)
  obtain ⟨-, rfl⟩ := Diagram.compile_eq_ok_iff.mp hc
  have hheading : ∀ type ∈ resourceTypes, ∀ terraformType, type.terraformType = some terraformType →
      type.typeId ∈ [TypeId.networkSecurityGroup, TypeId.appService, TypeId.storageAccount] →
      ∃ b ∈ (verboseDiagram.compileConsistent catalog).documentBlocks, ∃ label,
        b.heading = ("resource", [terraformType, label]) := fun type htype _ hterraform h =>
    exists_heading_of_success htype hterraform (hsuccess ▸ h)
  refine ⟨_, hc, ?_, ?_, ?_⟩
  · obtain ⟨b, hb, label, h⟩ := hheading networkSecurityGroupType (by simp [resourceTypes]) _ rfl
      (by decide)
    exact ⟨b, hb, label, h, (hnames b hb label).1 rfl h⟩
  · obtain ⟨b, hb, label, h⟩ := hheading appServiceType (by simp [resourceTypes]) _ rfl (by decide)
    exact ⟨b, hb, label, h, (hnames b hb label).2.1 rfl h⟩
  · obtain ⟨b, hb, label, h⟩ := hheading storageAccountType (by simp [resourceTypes]) _ rfl
      (by decide)
    exact ⟨b, hb, label, h, (hnames b hb label).2.2 h⟩

end Azure

end Groundplan
