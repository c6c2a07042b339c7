import Groundplan.Proofs.Azure.Closed
import Groundplan.Proofs.Expressions
import Groundplan.Proofs.Isolation
import Groundplan.Proofs.Labels
import Groundplan.Proofs.Settings

/-!
# Reference closure

No expression in a configuration compiled with the Azure catalog leads nowhere, unless it leads to a
resource that is reported as failed, or was already in the diagram.
-/

namespace Groundplan

/-- Whether a configuration has what an expression stands for. -/
def Compiled.Defines (c : Compiled) (e : String) : Prop :=
  (e = "local.common_tags" ∧
      ∃ b, c.locals = some b ∧ "common_tags" ∈ b.attributes.map (·.1)) ∨
    (∃ name, e = "var." ++ name ∧ (c.variables.filter (·.name == name)).length = 1) ∨
    RefersTo (Block.addresses c.blocks) e

/-- Whether an expression stands for a resource of a diagram that is reported as failed. -/
def Diagram.LeavesOpen (d : Diagram) (catalog : Catalog) (c : Compiled) (e : String) : Prop :=
  ∃ member ∈ d.members catalog.types, RefersTo (Member.addresses [member]) e ∧
    Finding.errorsAbout member.resource.id c.findings ≠ []

/-- Whether no value in a diagram or in its provider settings holds a reference at any depth. -/
structure Diagram.IsConstant (d : Diagram) : Prop where
  nodes : ∀ node ∈ d.nodes, ∀ value ∈ node.properties.values, value.isConstant = true
  project : ∀ config ∈ d.project.providerConfigs.values, ∀ value ∈ config.values,
    value.isConstant = true

theorem Diagram.IsConstant.property? {d : Diagram} (h : d.IsConstant) {types : Registry}
    {member : Member} (hm : member ∈ d.members types) {key : String} {value : Property}
    (hvalue : member.resource.property? key = some value) : value.isConstant = true := by
  have hnode : member.resource ∈ d.nodes := by
    rw [← map_resource_assignIdentities types d.naming [] d.nodes]
    exact List.mem_map_of_mem hm
  exact h.nodes _ hnode value (Dictionary.mem_values_of_get? hvalue)

namespace Azure

theorem isConstant_defaults {type : ResourceType} (htype : type ∈ resourceTypes) :
    ∀ s ∈ type.schema, ∀ value ∈ s.default, value.isConstant = true := by
  have hall : resourceTypes.all (fun type => type.schema.all fun s =>
      s.default.all (·.isConstant)) = true := rfl
  intro s hs value hvalue
  have hdefault := List.all_eq_true.mp (List.all_eq_true.mp hall type htype) s hs
  rw [Option.mem_def.mp hvalue] at hdefault
  exact hdefault

theorem notMem_connectedKeys_of_mem_providerProperties {type : ResourceType}
    (htype : type ∈ resourceTypes) {key : String} (hkey : key ∈ type.providerProperties) :
    key ∉ connectedKeys.map (·.2) := by
  have hall : ∀ type ∈ resourceTypes, ∀ key ∈ type.providerProperties,
      key ∉ connectedKeys.map (·.2) := by decide
  exact hall type htype key hkey

section Diagrams

variable {d : Diagram}

theorem closedOver_working (hcheck : d.check = .ok ()) (hd : d.IsConstant) {member : Member}
    (hm : member ∈ d.working catalog) :
    member.resource.ClosedOver (Member.addresses (d.working catalog)) := by
  rw [Diagram.addresses_working hcheck]
  rw [Diagram.working_eq catalog hcheck] at hm
  obtain ⟨own, hown, rfl⟩ := List.mem_map.mp hm
  refine Diagram.closedOver_workingCopy (fun rule hrule directive hdirective => ?_)
    (fun typeId type htype => isConstant_defaults (get?_types_catalog.mp htype).1)
    (fun key value h => hd.property? hown h)
  obtain ⟨_, hattribute, _⟩ := refers_of_mem_rules hrule directive hdirective
  rcases hattribute with h | h
  · rw [h]
    decide
  · rw [h]
    decide

theorem isConstant_supplied (hcheck : d.check = .ok ()) (hd : d.IsConstant) {member : Member}
    (hm : member ∈ d.working catalog) {type : ResourceType}
    (htype : catalog.types.get? member.resource.typeId = some type) {key : String}
    (hkey : key ∈ type.providerProperties) {value : Property}
    (hvalue : member.resource.present? key = some value) : value.isConstant = true := by
  rw [Diagram.working_eq catalog hcheck] at hm
  obtain ⟨own, hown, rfl⟩ := List.mem_map.mp hm
  have hfree := notMem_connectedKeys_of_mem_providerProperties (get?_types_catalog.mp htype).1 hkey
  rcases Diagram.property?_workingCopy catalog (Option.filter_eq_some_iff.mp hvalue).1 with
    ⟨w, hw, _, rfl, _⟩ | h | ⟨other, hother, s, hs, _, hdefault⟩
  · obtain ⟨edge, _, hwriting⟩ := List.mem_filterMap.mp hw
    obtain ⟨_, _, _, _, rule, hrule, directive, _, _, _, hdirective, rfl⟩ :=
      Edge.writing?_eq_some hwriting
    obtain ⟨hside, _, hkeys, _⟩ := refers_of_mem_rules hrule directive hdirective
    have hwritten : ∀ source target, (directive.writing source target).key = directive.key := by
      intro source target
      unfold ReferenceDirective.writing
      cases directive.side <;> rfl
    rw [hwritten] at hfree
    exact absurd (List.mem_map.mpr ⟨_, hkeys, rfl⟩) hfree
  · exact hd.property? hown h
  · exact isConstant_defaults (get?_types_catalog.mp hother).1 s hs value hdefault

theorem isPlain_providerBlock {settings : Dictionary Property} (h : settings.IsConstant) :
    (providerBlock settings).IsPlain := by
  refine (Block.IsPlain.foldl (fun b hb key => hb.set? key fun v hv => ?_) _ (.ofType _ _)).nest
    (.ofType _ _)
  obtain ⟨property, hproperty, rfl⟩ := Option.map_eq_some_iff.mp hv
  exact Property.expressions_toValue (h key property (Option.filter_eq_some_iff.mp hproperty).1)

theorem isPlain_providers (hcheck : d.check = .ok ()) (hd : d.IsConstant) {b : Block}
    (hb : b ∈ (d.compileConsistent catalog).providers) : b.IsPlain := by
  have hdefinitions : ∀ p ∈ catalog.providers, p = provider := by
    rw [providers_catalog]
    exact fun p hp => List.mem_singleton.mp hp
  have hresources : ∀ r ∈ (d.working catalog).map (·.resource), ∀ type,
      catalog.types.get? r.typeId = some type → ∀ key ∈ type.providerProperties, ∀ value,
        r.present? key = some value → value.isConstant = true := by
    intro r hr type htype key hkey value hvalue
    obtain ⟨member, hm, rfl⟩ := List.mem_map.mp hr
    exact isConstant_supplied hcheck hd hm htype hkey hvalue
  have hdefaults : ∀ p ∈ catalog.providers, p.defaultConfig.IsConstant := by
    intro p hp key value hvalue
    rw [hdefinitions p hp] at hvalue
    cases hvalue
  rw [Diagram.providers_compileConsistent] at hb
  obtain ⟨p, hp, settings, hsettings, rfl⟩ :=
    ProviderBlocks.mem_blocks_build hdefaults hd.project hresources hb
  rw [hdefinitions p hp]
  exact isPlain_providerBlock hsettings

theorem closed_generation (hcheck : d.check = .ok ()) (hd : d.IsConstant) {member : Member}
    (hm : member ∈ d.successes catalog) :
    Closed (Member.addresses (d.working catalog)) (d.context catalog member)
      (d.generation catalog member).declared (d.generation catalog member).results := by
  obtain ⟨hworking, hsucceeds⟩ := List.mem_filter.mp hm
  obtain ⟨type, htype, hgenerate⟩ := d.exists_generate_eq catalog hsucceeds
  exact closed_generate (get?_types_catalog.mp htype).1 (closedOver_working hcheck hd hworking)
    hgenerate

theorem mem_addresses_of_success {member : Member} {address : String}
    (hm : member ∈ d.successes catalog)
    (hterraform : ∀ type, catalog.types.get? member.resource.typeId = some type →
      member.identity.terraformType = type.terraformType)
    (haddress : member.identity.address? = some address) :
    address ∈ Block.addresses (d.compileConsistent catalog).blocks := by
  obtain ⟨_, hsucceeds⟩ := List.mem_filter.mp hm
  obtain ⟨type, htype, hgenerate⟩ := d.exists_generate_eq catalog hsucceeds
  obtain ⟨terraformType, hown, rfl⟩ := Option.map_eq_some_iff.mp haddress
  rw [hterraform type htype] at hown
  obtain ⟨b, hb, attributes, hdeclares⟩ :=
    exists_declares_generate (get?_types_catalog.mp htype).1 hown hgenerate
  refine Block.mem_addresses ?_ hdeclares.address?_resource
  rw [Diagram.blocks_compileConsistent]
  exact List.mem_flatMap.mpr ⟨member, hm, hb⟩

theorem defines_or_leavesOpen (hcheck : d.check = .ok ()) {e : String}
    (he : RefersTo (Member.addresses (d.working catalog)) e) :
    (d.compileConsistent catalog).Defines e ∨
      d.LeavesOpen catalog (d.compileConsistent catalog) e := by
  obtain ⟨address, haddress, name, hword, rfl⟩ := he
  obtain ⟨member, hm, hidentity⟩ := List.mem_filterMap.mp haddress
  have hworking := hm
  rw [Diagram.working_eq catalog hcheck] at hm
  obtain ⟨own, hown, rfl⟩ := List.mem_map.mp hm
  rw [Diagram.identity_workingCopy] at hidentity
  by_cases hsucceeds : (d.generation catalog (d.workingCopy catalog own)).succeeds = true
  · refine .inl (.inr (.inr ⟨address, ?_, name, hword, rfl⟩))
    refine mem_addresses_of_success (List.mem_filter.mpr ⟨hworking, hsucceeds⟩)
      (fun type htype => ?_) ((Diagram.identity_workingCopy d catalog own).symm ▸ hidentity)
    rw [Diagram.typeId_workingCopy] at htype
    rw [Diagram.identity_workingCopy, Diagram.terraformType_of_mem_members hown, htype]
    rfl
  · refine .inr ⟨own, hown, ⟨address, ?_, name, hword, rfl⟩, ?_⟩
    · exact List.mem_filterMap.mpr ⟨own, List.mem_cons_self, hidentity⟩
    · have hfailure := mt (d.failure?_eq_none_iff catalog (d.workingCopy catalog own)).mp hsucceeds
      obtain ⟨finding, hfinding⟩ := Option.ne_none_iff_exists'.mp hfailure
      have hreported := Diagram.errorsAbout_findings catalog hcheck hworking
      rw [Diagram.id_workingCopy, hfinding] at hreported
      rw [hreported]
      exact List.cons_ne_nil _ _

theorem defines_or_leavesOpen_of_supported (hcheck : d.check = .ok ()) {member : Member}
    (hm : member ∈ d.successes catalog) {e : String}
    (he : Supported (Member.addresses (d.working catalog) ++
      Block.addresses (d.generation catalog member).results) (d.context catalog member)
      (d.generation catalog member).declared e) :
    (d.compileConsistent catalog).Defines e ∨
      d.LeavesOpen catalog (d.compileConsistent catalog) e := by
  rcases he with ⟨rfl, htags⟩ | ⟨v, hv, rfl⟩ | ⟨address, haddress, name, hword, rfl⟩
  · refine .inl (.inl ⟨rfl, ?_⟩)
    rw [Diagram.locals_compileConsistent]
    have hsome : ¬d.project.commonTags.isEmpty = true := by
      intro hempty
      rw [Context.commonTags?, Diagram.context, if_pos hempty] at htags
      cases htags
    rw [Project.localsBlock?, if_neg hsome]
    exact ⟨_, rfl, List.mem_cons_self⟩
  · refine .inl (.inr (.inl ⟨v.name, rfl, ?_⟩))
    rw [Diagram.variables_compileConsistent, filter_firstNamed]
    have hmem : v ∈ (d.successes catalog).flatMap fun member =>
        (d.generation catalog member).declared.filterMap (·.toVariable?) :=
      List.mem_flatMap.mpr ⟨member, hm, List.mem_filterMap.mpr ⟨_, hv, rfl⟩⟩
    obtain ⟨first, hfirst⟩ := Option.isSome_iff_exists.mp
      (List.find?_isSome (p := (·.name == v.name)).mpr ⟨v, hmem, BEq.rfl⟩)
    rw [hfirst]
    rfl
  · rcases List.mem_append.mp haddress with haddress | haddress
    · exact defines_or_leavesOpen hcheck ⟨address, haddress, name, hword, rfl⟩
    · refine .inl (.inr (.inr ⟨address, ?_, name, hword, rfl⟩))
      obtain ⟨b, hb, hblock⟩ := List.mem_filterMap.mp haddress
      refine Block.mem_addresses ?_ hblock
      rw [Diagram.blocks_compileConsistent]
      exact List.mem_flatMap.mpr ⟨member, hm, hb⟩

end Diagrams

/-- In the configuration of a diagram that holds no references of its own, every expression stands
for the tags of the project, for a variable that is declared once, or for an attribute of a block or
of a resource that is reported as failed. Without failures nothing is left open. -/
theorem compile_closes_references (d : Diagram) (c : Compiled) (hc : d.compile catalog = .ok c)
    (hd : d.IsConstant) :
    (∀ e ∈ c.expressions, c.Defines e ∨ d.LeavesOpen catalog c e) ∧
      (c.hasErrors = false → ∀ e ∈ c.expressions, c.Defines e) := by
  obtain ⟨hcheck, rfl⟩ := Diagram.compile_eq_ok_iff.mp hc
  have hall : ∀ e ∈ (d.compileConsistent catalog).expressions,
      (d.compileConsistent catalog).Defines e ∨
        d.LeavesOpen catalog (d.compileConsistent catalog) e := by
    intro e he
    obtain ⟨b, hb, hmem⟩ := List.mem_flatMap.mp he
    simp only [Compiled.documentBlocks, List.mem_cons, List.mem_append, List.mem_map,
      Option.mem_toList] at hb
    rcases hb with rfl | ((((hb | hb) | ⟨v, hv, rfl⟩) | hb) | ⟨o, ho, rfl⟩)
    · rw [Diagram.terraform_compileConsistent] at hmem
      exact absurd hmem ((ProviderBlocks.isPlain_terraformBlock _ _).notMem_expressions e)
    · exact absurd hmem ((isPlain_providers hcheck hd hb).notMem_expressions e)
    · exact absurd hmem ((Project.isPlain_localsBlock? hb).notMem_expressions e)
    · rw [Diagram.variables_compileConsistent] at hv
      obtain ⟨member, hm, hdeclared⟩ := List.mem_flatMap.mp (mem_of_mem_firstNamed _ hv)
      obtain ⟨p, hp, hexpression⟩ := Variable.mem_expressions_toBlock hmem
      obtain ⟨other, hother, hconstant⟩ := (closed_generation hcheck hd hm).defaults v
        (Declaration.mem_filterMap_toVariable?.mp hdeclared)
      rw [hp] at hother
      cases hother
      rw [Property.expressions_toValue hconstant] at hexpression
      exact absurd hexpression List.not_mem_nil
    · rw [Diagram.blocks_compileConsistent] at hb
      obtain ⟨member, hm, hresult⟩ := List.mem_flatMap.mp hb
      obtain ⟨a, ha, _, hexpression⟩ := Block.mem_expressions.mp hmem
      exact defines_or_leavesOpen_of_supported hcheck hm
        ((closed_generation hcheck hd hm).attributes b hresult a ha e hexpression)
    · rw [Diagram.outputs_compileConsistent] at ho
      obtain ⟨member, hm, hdeclared⟩ := List.mem_flatMap.mp (mem_of_mem_firstNamed _ ho)
      rw [Output.eq_of_mem_expressions_toBlock hmem]
      have hvalue := (closed_generation hcheck hd hm).outputs o
        (Declaration.mem_filterMap_toOutput?.mp hdeclared)
      exact defines_or_leavesOpen_of_supported hcheck hm
        (.inr (.inr (hvalue.mono (List.subset_append_right _ _))))
  refine ⟨hall, fun hnone e he => (hall e he).resolve_right ?_⟩
  rintro ⟨member, _, _, herrors⟩
  obtain ⟨finding, hfinding⟩ := List.exists_mem_of_ne_nil _ herrors
  obtain ⟨hreported, herror⟩ := List.mem_filter.mp hfinding
  rw [Compiled.hasErrors, Finding.hasErrors, List.any_eq_false] at hnone
  exact hnone finding hreported (Bool.and_eq_true_iff.mp herror).1

/-- A web app on a plan, both in a resource group. -/
def webDiagram : Diagram where
  nodes :=
    [{ id := "rg", typeId := TypeId.resourceGroup, name := "core" },
     { id := "plan", typeId := TypeId.appServicePlan, name := "web"
       modes := Dictionary.empty.insert "sku_name" .exposed },
     { id := "app", typeId := TypeId.appService, name := "shop" }]
  edges :=
    [⟨"e1", "rg", "resources", "plan", "rg-in"⟩, ⟨"e2", "rg", "resources", "app", "rg-in"⟩,
     ⟨"e3", "plan", "apps-out", "app", "plan-in"⟩]
  project := Project.addTag {} "team" "web"

/-- The same app integrated into a subnet that fails, for it is in no network. -/
def integratedDiagram : Diagram where
  nodes := webDiagram.nodes ++ [{ id := "subnet", typeId := TypeId.subnet, name := "apps" }]
  edges := webDiagram.edges ++ [⟨"e4", "subnet", "integration-out", "app", "subnet-in"⟩]

theorem compile_closes_references_web :
    (∃ c, webDiagram.compile catalog = .ok c ∧ "azurerm_service_plan.web.id" ∈ c.expressions ∧
      c.Defines "azurerm_service_plan.web.id") ∧
    ∃ c, integratedDiagram.compile catalog = .ok c ∧ "azurerm_subnet.apps.id" ∈ c.expressions ∧
      (c.Defines "azurerm_subnet.apps.id" ∨
        integratedDiagram.LeavesOpen catalog c "azurerm_subnet.apps.id") := by
  constructor
  · have hmem : "azurerm_service_plan.web.id" ∈ (webDiagram.compileConsistent catalog).expressions :=
      by decide +kernel
    exact ⟨_, rfl, hmem, (compile_closes_references webDiagram _ rfl
      ⟨by decide +kernel, by decide +kernel⟩).2 (by decide +kernel) _ hmem⟩
  · have hmem : "azurerm_subnet.apps.id" ∈
        (integratedDiagram.compileConsistent catalog).expressions := by decide +kernel
    exact ⟨_, rfl, hmem, (compile_closes_references integratedDiagram _ rfl
      ⟨by decide +kernel, by decide +kernel⟩).1 _ hmem⟩

end Azure

end Groundplan
