import Groundplan.Proofs.Azure.Closed
import Groundplan.Proofs.Headings
import Groundplan.Proofs.Settings

/-!
# Declared once

No configuration compiled with the Azure catalog declares anything twice, and no output of a key
vault gives way to that of another one: what a generator emits and declares carries the label of its
resource, and what goes with the label tells the types apart.
-/

namespace Groundplan.Azure

/-- The types and the first labels of the blocks that a resource of a type may bring, in order. -/
def blockKinds (type : ResourceType) : List (String × String) :=
  (if type.typeId = TypeId.keyVault then [("data", "azurerm_client_config")] else []) ++
    (type.terraformType.map ("resource", ·)).toList ++
    (if type.typeId = TypeId.subnet then
      [("resource", "azurerm_subnet_network_security_group_association")] else [])

def labelled (label : String) (kinds : List (String × String)) : List (String × List String) :=
  kinds.map fun kind => (kind.1, [kind.2, label])

theorem nodup_labelled (label : String) {kinds : List (String × String)} (h : kinds.Nodup) :
    (labelled label kinds).Nodup := by
  apply h.map
  intro first second heq
  obtain ⟨htype, hlabels⟩ := Prod.mk.inj heq
  exact Prod.ext htype (List.cons.inj hlabels).1

theorem nodup_blockKinds {type : ResourceType} (htype : type ∈ resourceTypes) :
    (blockKinds type).Nodup := by
  have hall : ∀ type ∈ resourceTypes, (blockKinds type).Nodup := by decide
  exact hall type htype

theorem typeId_eq_of_mem_blockKinds {a b : ResourceType} (ha : a ∈ resourceTypes)
    (hb : b ∈ resourceTypes) {kind : String × String} (hkind : kind ∈ blockKinds a)
    (hother : kind ∈ blockKinds b) : a.typeId = b.typeId := by
  have hall : ∀ a ∈ resourceTypes, ∀ b ∈ resourceTypes, ∀ kind ∈ blockKinds a,
      kind ∈ blockKinds b → a.typeId = b.typeId := by decide
  exact hall a ha b hb kind hkind hother

/-- What a generation of a type brings: blocks of its kinds with the label of the resource, and the
outputs of a vault, but no outputs of anything else. -/
structure Brings (type : ResourceType) (c : Context) (declared : List Declaration)
    (blocks : List Block) : Prop where
  headings : (blocks.map Block.heading).Sublist (labelled c.label (blockKinds type))
  outputs : declared.filterMap (·.toOutput?) =
    if type.typeId = TypeId.keyVault then vaultOutputs c else []

section Generators

variable {type : ResourceType} {r : Resource} {c : Context} {declared : List Declaration}
  {blocks : List Block}

theorem filterMap_toOutput?_ofVariable (v : Option Variable) :
    (v.toList.map Declaration.ofVariable).filterMap (·.toOutput?) = [] := by
  cases v <;> rfl

theorem Brings.single {terraformType : String} (hkinds : blockKinds type = [("resource", terraformType)])
    (hvault : type.typeId ≠ TypeId.keyVault) {b : Block} {attributes : List (String × Value)}
    (hb : b.Declares "resource" [terraformType, c.label] attributes)
    (houtputs : declared.filterMap (·.toOutput?) = []) : Brings type c declared [b] where
  headings := by
    rw [hkinds, List.map_singleton, hb.heading_eq]
    exact List.Sublist.refl _
  outputs := by rw [houtputs, if_neg hvault]

theorem brings_generateSubnet (h : generateSubnet r c = ⟨declared, .ok blocks⟩) :
    Brings subnetType c declared blocks := by
  obtain ⟨_, _, _, _, _, _, rfl, b, hb, ⟨_, rfl⟩ | ⟨_, _, association, _, _, rfl, hassociation⟩⟩ :=
    generateSubnet_eq_ok h
  · refine ⟨?_, rfl⟩
    rw [List.map_singleton, hb.heading_eq]
    exact (List.nil_sublist _).cons_cons _
  · refine ⟨?_, rfl⟩
    rw [List.map_cons, List.map_singleton, hb.heading_eq, hassociation.heading_eq]
    exact List.Sublist.refl _

theorem brings_generateKeyVault (h : generateKeyVault r c = ⟨declared, .ok blocks⟩) :
    Brings keyVaultType c declared blocks := by
  obtain ⟨_, _, _, _, rfl, client, vault, rfl, hclient, hvault⟩ := generateKeyVault_eq_ok h
  refine ⟨?_, ?_⟩
  · rw [List.map_cons, List.map_singleton, hclient.heading_eq, hvault.heading_eq]
    exact List.Sublist.refl _
  · rw [List.filterMap_append, filterMap_toOutput?_ofVariable]
    rfl

theorem brings_generate (htype : type ∈ resourceTypes)
    (h : type.generate r c = ⟨declared, .ok blocks⟩) : Brings type c declared blocks := by
  have hsettings : ∀ v w : Option Variable, (v.toList.map Declaration.ofVariable ++
      w.toList.map Declaration.ofVariable).filterMap (·.toOutput?) = [] := by
    intro v w
    rw [List.filterMap_append, filterMap_toOutput?_ofVariable, filterMap_toOutput?_ofVariable]
    rfl
  simp only [resourceTypes, List.mem_cons, List.not_mem_nil, or_false] at htype
  rcases htype with rfl | rfl | rfl | rfl | rfl | rfl | rfl | rfl | rfl | rfl
  · obtain ⟨rfl, rfl⟩ := Generation.pure_eq_ok_iff.mp h
    exact ⟨List.nil_sublist _, rfl⟩
  · obtain ⟨_, _, rfl, b, rfl, hb⟩ := generateResourceGroup_eq_ok h
    exact .single rfl (by decide) hb rfl
  · obtain ⟨_, _, _, _, _, _, rfl, b, rfl, hb⟩ := generateVirtualNetwork_eq_ok h
    exact .single rfl (by decide) hb rfl
  · exact brings_generateSubnet h
  · obtain ⟨_, _, _, _, rfl, b, rfl, hb⟩ := generateNetworkSecurityGroup_eq_ok h
    exact .single rfl (by decide) hb rfl
  · obtain ⟨_, _, _, _, _, _, rfl, b, rfl, hb⟩ := generatePublicIp_eq_ok h
    exact .single rfl (by decide) hb rfl
  · obtain ⟨_, _, _, _, rfl, b, rfl, hb⟩ := generateAppServicePlan_eq_ok h
    exact .single rfl (by decide) hb (hsettings _ _)
  · obtain ⟨_, _, _, _, _, _, rfl, b, rfl, hb⟩ := generateAppService_eq_ok h
    exact .single rfl (by decide) hb rfl
  · obtain ⟨_, _, _, _, _, rfl, b, rfl, hb⟩ := generateStorageAccount_eq_ok h
    exact .single rfl (by decide) hb (hsettings _ _)
  · exact brings_generateKeyVault h

end Generators

theorem outputName_injective {label other ending otherEnding : String}
    (hending : ending ∈ ["_vault_uri", "_id"]) (hother : otherEnding ∈ ["_vault_uri", "_id"])
    (h : label ++ ending = other ++ otherEnding) : label = other ∧ ending = otherEnding := by
  have hlast : ∀ ending ∈ ["_vault_uri", "_id"], ∀ label : String,
      (label ++ ending).toList.getLast? = ending.toList.getLast? := by
    intro ending hending label
    rw [String.toList_append, List.getLast?_append]
    simp only [List.mem_cons, List.not_mem_nil, or_false] at hending
    rcases hending with rfl | rfl <;> rfl
  have hends := congrArg (·.toList.getLast?) h
  simp only [hlast ending hending, hlast otherEnding hother] at hends
  have hdistinct : ∀ a ∈ ["_vault_uri", "_id"], ∀ b ∈ ["_vault_uri", "_id"],
      a.toList.getLast? = b.toList.getLast? → a = b := by decide
  obtain rfl := hdistinct ending hending otherEnding hother hends
  exact ⟨(String.append_left_inj _).mp h, rfl⟩

theorem exists_ending_of_mem_vaultOutputs {c : Context} {o : Output} (h : o ∈ vaultOutputs c) :
    ∃ ending ∈ ["_vault_uri", "_id"], o.name = c.label ++ ending := by
  simp only [vaultOutputs, List.mem_cons, List.not_mem_nil, or_false] at h
  rcases h with rfl | rfl
  · exact ⟨"_vault_uri", by decide, rfl⟩
  · exact ⟨"_id", by decide, rfl⟩

theorem nodup_vaultOutputs (c : Context) : ((vaultOutputs c).map (·.name)).Nodup := by
  apply List.nodup_cons.mpr
  refine ⟨?_, List.nodup_singleton _⟩
  intro hmem
  have hends := (outputName_injective (by decide) (by decide) (List.mem_singleton.mp hmem)).2
  exact absurd hends (by decide)

section Diagrams

variable {d : Diagram} {m : Member}

theorem brings_generation (hm : m ∈ d.successes catalog) :
    ∃ type ∈ resourceTypes, type.typeId = m.resource.typeId ∧
      Brings type (d.context catalog m) (d.generation catalog m).declared
        (d.generation catalog m).results := by
  obtain ⟨type, htype, hgenerate⟩ := d.exists_generate_eq catalog (List.mem_filter.mp hm).2
  obtain ⟨hregistered, htypeId⟩ := get?_types_catalog.mp htype
  exact ⟨type, hregistered, htypeId, brings_generate hregistered hgenerate⟩

theorem eq_of_successes (hcheck : d.check = .ok ()) {a b : Member} (ha : a ∈ d.successes catalog)
    (hb : b ∈ d.successes catalog) {type : ResourceType} (htype : type ∈ resourceTypes)
    (hatype : type.typeId = a.resource.typeId) (hbtype : type.typeId = b.resource.typeId)
    (hkinds : blockKinds type ≠ []) (hlabel : a.identity.label = b.identity.label) : a = b := by
  have hall : ∀ type ∈ resourceTypes, blockKinds type ≠ [] → type.terraformType.isSome = true := by
    decide
  exact Diagram.eq_of_label_eq hcheck (List.mem_filter.mp ha).1 (List.mem_filter.mp hb).1
    (get?_types_catalog.mpr ⟨htype, hatype⟩) (hall type htype hkinds) (hatype.symm.trans hbtype) hlabel

theorem section_blocks (hcheck : d.check = .ok ()) :
    Section ["resource", "data"] (d.compileConsistent catalog).blocks where
  types := by
    intro b hb
    rw [Diagram.blocks_compileConsistent] at hb
    obtain ⟨m, hm, hresult⟩ := List.mem_flatMap.mp hb
    obtain ⟨type, htype, _, hbrings⟩ := brings_generation hm
    obtain ⟨kind, hkind, hheading⟩ :=
      List.mem_map.mp (hbrings.headings.subset (List.mem_map_of_mem hresult))
    have hall : ∀ type ∈ resourceTypes, ∀ kind ∈ blockKinds type, kind.1 ∈ ["resource", "data"] := by
      decide
    have htypes : kind.1 = b.type := congrArg (·.1) hheading
    exact htypes ▸ hall type htype kind hkind
  nodup := by
    rw [Diagram.blocks_compileConsistent, List.map_flatMap]
    apply nodup_flatMap_of_owner (Diagram.nodup_successes hcheck)
    · intro m hm
      obtain ⟨type, htype, _, hbrings⟩ := brings_generation hm
      exact (nodup_labelled _ (nodup_blockKinds htype)).sublist hbrings.headings
    · intro a ha b hb heading hfirst hsecond
      obtain ⟨type, htype, hatype, hown⟩ := brings_generation ha
      obtain ⟨other, hother, hbtype, hothers⟩ := brings_generation hb
      obtain ⟨kind, hkind, rfl⟩ := List.mem_map.mp (hown.headings.subset hfirst)
      obtain ⟨otherKind, hotherKind, heq⟩ := List.mem_map.mp (hothers.headings.subset hsecond)
      simp only [Prod.mk.injEq, List.cons.injEq, and_true] at heq
      obtain ⟨hblockType, hlabelType, hlabel⟩ := heq
      have hsame : otherKind = kind := Prod.ext hblockType hlabelType
      have hids := typeId_eq_of_mem_blockKinds htype hother hkind (hsame ▸ hotherKind)
      exact eq_of_successes hcheck ha hb htype hatype (hids.trans hbtype) (List.ne_nil_of_mem hkind)
        hlabel.symm

theorem heading_providerBlock (settings : Dictionary Property) :
    (providerBlock settings).heading = ("provider", [providerId]) :=
  Block.heading_foldl (fun _ _ => Block.heading_set? _ _ _) (Block.ofType "provider" [providerId])
    providerSettings

theorem section_providers (d : Diagram) :
    Section ["provider"] (d.compileConsistent catalog).providers := by
  rw [Diagram.providers_compileConsistent]
  let used := Provider.used catalog.types (Provider.distinct [] catalog.providers).1 []
    ((d.working catalog).map (·.resource))
  have hn : (used.map (·.id)).Nodup := Provider.nodup_id_used _ _ (by simp) _
  have hused : ∀ p ∈ used, p = provider := by
    intro p hp
    have hmem := Provider.mem_of_mem_distinct
      ((Provider.mem_of_mem_used hp).resolve_left List.not_mem_nil)
    rw [providers_catalog] at hmem
    exact List.mem_singleton.mp hmem
  refine .named (fun p hp => ?_) hn
  rw [hused p hp]
  exact heading_providerBlock _

/-- Every output that a resource declares is kept. -/
theorem outputs_compileConsistent (hcheck : d.check = .ok ()) :
    (d.compileConsistent catalog).outputs = (d.successes catalog).flatMap fun m =>
      if m.resource.typeId = TypeId.keyVault then vaultOutputs (d.context catalog m) else [] := by
  have hdeclared : ((d.successes catalog).flatMap fun m =>
      (d.generation catalog m).declared.filterMap (·.toOutput?)) =
      (d.successes catalog).flatMap fun m =>
        if m.resource.typeId = TypeId.keyVault then vaultOutputs (d.context catalog m) else [] := by
    apply List.flatMap_congr
    intro m hm
    obtain ⟨type, _, htypeId, hbrings⟩ := brings_generation hm
    rw [hbrings.outputs, htypeId]
  rw [Diagram.outputs_compileConsistent, hdeclared]
  apply firstNamed_of_nodup
  rw [List.map_flatMap]
  apply nodup_flatMap_of_owner (Diagram.nodup_successes hcheck)
  · intro m _
    split
    · exact nodup_vaultOutputs _
    · exact List.nodup_nil
  · intro a ha b hb name hfirst hsecond
    obtain ⟨o, ho, rfl⟩ := List.mem_map.mp hfirst
    obtain ⟨p, hp, hname⟩ := List.mem_map.mp hsecond
    split at ho
    · split at hp
      · rename_i hatype hbtype
        obtain ⟨ending, hending, howner⟩ := exists_ending_of_mem_vaultOutputs ho
        obtain ⟨otherEnding, hotherEnding, hother⟩ := exists_ending_of_mem_vaultOutputs hp
        rw [howner, hother] at hname
        have hlabel := (outputName_injective hotherEnding hending hname).1
        have hregistered : keyVaultType ∈ resourceTypes := by simp [resourceTypes]
        exact eq_of_successes hcheck ha hb hregistered hatype.symm hbtype.symm (by decide) hlabel.symm
      · exact absurd hp List.not_mem_nil
    · exact absurd ho List.not_mem_nil

theorem filter_outputs (hcheck : d.check = .ok ()) (hm : m ∈ d.successes catalog)
    (hvault : m.resource.typeId = TypeId.keyVault) {o : Output}
    (ho : o ∈ vaultOutputs (d.context catalog m)) :
    (d.compileConsistent catalog).outputs.filter (·.name == o.name) = [o] := by
  have hn : ((d.compileConsistent catalog).outputs.map (·.name)).Nodup := by
    rw [Diagram.outputs_compileConsistent]
    exact nodup_map_firstNamed _ _
  have hmem : o ∈ (d.compileConsistent catalog).outputs := by
    rw [outputs_compileConsistent hcheck]
    exact List.mem_flatMap.mpr ⟨m, hm, by rwa [if_pos hvault]⟩
  have hfound := (find?_eq_some_iff_of_nodup (fun o : Output => o.name) hn).mpr ⟨hmem, rfl⟩
  rw [filter_eq_toList_find?_of_nodup (fun o : Output => o.name) hn, hfound]
  rfl

/-- A consistent diagram compiles to a document in which no heading stands twice. Every vault for
which generation succeeds has a block at its address, and its two outputs, which lead there. -/
theorem compile_declares_once (d : Diagram) (hcheck : d.check = .ok ()) :
    ∃ c, d.compile catalog = .ok c ∧
      (c.documentBlocks.map fun b => (b.type, b.labels)).Nodup ∧
      ∀ m ∈ d.successes catalog, m.resource.typeId = TypeId.keyVault →
        ∃ b ∈ c.blocks, b.address? = some ("azurerm_key_vault." ++ m.identity.label) ∧
          (c.outputs.filter (·.name == m.identity.label ++ "_vault_uri")).map (·.value) =
            ["azurerm_key_vault." ++ m.identity.label ++ ".vault_uri"] ∧
          (c.outputs.filter (·.name == m.identity.label ++ "_id")).map (·.value) =
            ["azurerm_key_vault." ++ m.identity.label ++ ".id"] := by
  refine ⟨_, Diagram.compile_eq_ok_iff.mpr ⟨hcheck, rfl⟩,
    Diagram.nodup_headings_documentBlocks (section_providers d) (section_blocks hcheck), ?_⟩
  intro m hm hvault
  obtain ⟨type, htype, hgenerate⟩ := d.exists_generate_eq catalog (List.mem_filter.mp hm).2
  obtain ⟨hregistered, htypeId⟩ := get?_types_catalog.mp htype
  obtain rfl : type = keyVaultType :=
    eq_of_typeId_eq hregistered (by simp [resourceTypes]) (htypeId.trans hvault)
  obtain ⟨b, hb, _, hdeclares⟩ := exists_declares_generate hregistered rfl hgenerate
  refine ⟨b, ?_, hdeclares.address?_resource, ?_, ?_⟩
  · rw [Diagram.blocks_compileConsistent]
    exact List.mem_flatMap.mpr ⟨m, hm, hb⟩
  · exact congrArg (List.map (·.value)) (filter_outputs hcheck hm hvault List.mem_cons_self)
  · exact congrArg (List.map (·.value))
      (filter_outputs hcheck hm hvault (List.mem_cons_of_mem _ List.mem_cons_self))

end Diagrams

def placedNode (id typeId name : String) (others : List (String × Property)) : Resource where
  id := id
  typeId := typeId
  name := name
  properties := Dictionary.ofList ([("location", .string "westeurope"),
    ("resource_group_name", .string "rg")] ++ others)

/-- Vaults whose names lead to one label, the third one to that which the second one gets, and a
connected subnet of the same name. -/
def vaultDiagram : Diagram where
  nodes :=
    [placedNode "first" TypeId.keyVault "kv" [], placedNode "second" TypeId.keyVault "kv" [],
     placedNode "third" TypeId.keyVault "kv 2" [],
     placedNode "guard" TypeId.networkSecurityGroup "kv" [],
     placedNode "subnet" TypeId.subnet "kv" [("virtual_network_name", .string "net")]]
  edges := [⟨"secure", "guard", "nsg-out", "subnet", "nsg-in"⟩]

theorem compile_declares_once_vaults :
    vaultDiagram.check = .ok () ∧ ∃ c, vaultDiagram.compile catalog = .ok c ∧
      (c.documentBlocks.map fun b => (b.type, b.labels)).Nodup ∧
      (c.outputs.filter (·.name == "kv_2_2_id")).map (·.value) = ["azurerm_key_vault.kv_2_2.id"] := by
  have hcheck : vaultDiagram.check = .ok () := by decide
  obtain ⟨c, hc, hn, hvaults⟩ := compile_declares_once vaultDiagram hcheck
  have hthird : ∃ m ∈ vaultDiagram.successes catalog,
      m.resource.typeId = TypeId.keyVault ∧ m.identity.label = "kv_2_2" := by
    decide +kernel
  obtain ⟨m, hm, htype, hlabel⟩ := hthird
  obtain ⟨_, _, _, _, hid⟩ := hvaults m hm htype
  rw [hlabel] at hid
  exact ⟨hcheck, c, hc, hn, hid⟩

end Groundplan.Azure
