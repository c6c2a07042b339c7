import Groundplan.Proofs.Azure.Growth
import Groundplan.Proofs.Renaming

/-!
# Renaming Azure diagrams

The Azure generators use the id of a resource for two things only: to say which resource an error is
about, and to look up the address of the resource itself.
-/

namespace Groundplan

section Outcomes

variable {α β : Type}

theorem mapError_bind {ε ε' : Type} (h : ε → ε') (x : Except ε α) (k : α → Except ε β) :
    (x >>= k).mapError h = x.mapError h >>= fun a => (k a).mapError h := by
  cases x <;> rfl

theorem mapError_map {ε ε' : Type} (h : ε → ε') (k : α → β) (x : Except ε α) :
    (k <$> x).mapError h = k <$> x.mapError h := by
  cases x <;> rfl

namespace Generation

variable (f : String → String)

theorem rename_bind (x : Generation α) (k : α → Generation β) :
    (x >>= k).rename f = x.rename f >>= fun a => (k a).rename f := by
  obtain ⟨declared, outcome⟩ := x
  cases outcome <;> rfl

theorem rename_pure (a : α) : (Pure.pure a : Generation α).rename f = Pure.pure a := rfl

theorem rename_liftM (x : Except ResourceError α) :
    (liftM x : Generation α).rename f = liftM (x.mapError (·.rename f)) := rfl

theorem rename_declareOutput (o : Output) : (declareOutput o).rename f = declareOutput o := rfl

end Generation

end Outcomes

variable (f : String → String)

namespace Resource

variable (r : Resource) (key : String)

theorem property?_rename : (r.rename f).property? key = r.property? key := rfl

theorem present?_rename : (r.rename f).present? key = r.present? key := rfl

theorem require_rename : (r.rename f).require key = (r.require key).mapError (·.rename f) := by
  rw [require, require, present?_rename]
  cases r.present? key <;> rfl

theorem requireString_rename :
    (r.rename f).requireString key = (r.requireString key).mapError (·.rename f) := by
  rw [requireString, requireString, require_rename, mapError_bind]
  congr 1
  funext value
  cases value.string? <;> rfl

theorem stringOr_rename (default : String) :
    (r.rename f).stringOr key default = r.stringOr key default := rfl

end Resource

namespace Context

variable (c : Context)

theorem label_rename : (c.rename f).label = c.label := rfl

theorem resolvedName_rename : (c.rename f).resolvedName = c.resolvedName := rfl

variable {f}

theorem attributeOf_rename (hf : Function.Injective f) (id name : String) :
    (c.rename f).attributeOf (f id) name = (c.attributeOf id name).mapError (·.rename f) := by
  have haddress : (c.rename f).address? (f id) = c.address? id := by
    have hfound := Member.find?_rename hf c.members id
    show (Member.find? (c.members.map (·.rename f)) (f id)).bind _ = _
    rw [hfound, address?]
    cases Member.find? c.members id <;> rfl
  rw [attributeOf, attributeOf, haddress]
  cases c.address? id <;> rfl

theorem propertyValue_rename (r : Resource) (key : String) (value : Property)
    (options : VariableOptions) : (c.rename f).propertyValue (r.rename f) key value options =
      (c.propertyValue r key value options).rename f := by
  have hmode : (r.rename f).mode key = r.mode key := rfl
  rw [propertyValue, propertyValue, hmode]
  split <;> rfl

end Context

namespace Azure

variable (r : Resource) (c : Context)

theorem besideReference?_rename (key other : String) :
    besideReference? (r.rename f) key other = besideReference? r key other := rfl

theorem resourceGroupName_rename :
    resourceGroupName (r.rename f) = (resourceGroupName r).mapError (·.rename f) := by
  rw [resourceGroupName, resourceGroupName, r.require_rename, mapError_map]

theorem location_rename : location (r.rename f) = (location r).mapError (·.rename f) := by
  rw [location, location, r.present?_rename, besideReference?_rename]
  cases r.present? "location" with
  | some value => rfl
  | none => cases besideReference? r "resource_group_name" "location" <;> rfl

theorem locatedBlock_rename (terraformType : String) :
    locatedBlock terraformType (r.rename f) (c.rename f) =
      (locatedBlock terraformType r c).mapError (·.rename f) := by
  simp only [locatedBlock, resourceGroupName_rename, location_rename, mapError_bind]
  rfl

theorem copyPresent_rename (block : Block) (key : String) :
    copyPresent block (r.rename f) key = copyPresent block r key := rfl

theorem withTags_rename (block : Block) : withTags block (c.rename f) = withTags block c := rfl

theorem settingValue_rename (key fallback : String) :
    settingValue (r.rename f) (c.rename f) key fallback = (settingValue r c key fallback).rename f :=
  c.propertyValue_rename r key _ {}

theorem generateResourceGroup_rename : generateResourceGroup (r.rename f) (c.rename f) =
    (generateResourceGroup r c).rename f := by
  simp only [generateResourceGroup, r.require_rename, Generation.rename_bind,
    Generation.rename_liftM, Generation.rename_pure, c.label_rename, c.resolvedName_rename,
    withTags_rename]

theorem generateVirtualNetwork_rename : generateVirtualNetwork (r.rename f) (c.rename f) =
    (generateVirtualNetwork r c).rename f := by
  simp only [generateVirtualNetwork, locatedBlock_rename, r.require_rename, Generation.rename_bind,
    Generation.rename_liftM, Generation.rename_pure, copyPresent_rename, withTags_rename]

theorem subnetResourceGroup_rename :
    subnetResourceGroup (r.rename f) = (subnetResourceGroup r).mapError (·.rename f) := by
  rw [subnetResourceGroup, subnetResourceGroup, resourceGroupName_rename, besideReference?_rename]
  cases resourceGroupName r with
  | ok value => rfl
  | error e => cases besideReference? r "virtual_network_name" "resource_group_name" <;> rfl

theorem generateNetworkSecurityGroup_rename :
    generateNetworkSecurityGroup (r.rename f) (c.rename f) =
      (generateNetworkSecurityGroup r c).rename f := by
  simp only [generateNetworkSecurityGroup, locatedBlock_rename, Generation.rename_bind,
    Generation.rename_liftM, Generation.rename_pure, withTags_rename]

theorem allocationMethod_rename :
    allocationMethod (r.rename f) = (allocationMethod r).mapError (·.rename f) := by
  simp only [allocationMethod, r.requireString_rename, r.stringOr_rename, mapError_bind]
  congr 1
  funext allocation
  split <;> rfl

theorem generatePublicIp_rename : generatePublicIp (r.rename f) (c.rename f) =
    (generatePublicIp r c).rename f := by
  simp only [generatePublicIp, allocationMethod_rename, locatedBlock_rename, Generation.rename_bind,
    Generation.rename_liftM, Generation.rename_pure, r.stringOr_rename, copyPresent_rename,
    withTags_rename]

theorem generateAppServicePlan_rename : generateAppServicePlan (r.rename f) (c.rename f) =
    (generateAppServicePlan r c).rename f := by
  simp only [generateAppServicePlan, locatedBlock_rename, settingValue_rename,
    Generation.rename_bind, Generation.rename_liftM, Generation.rename_pure, withTags_rename]

theorem generateAppService_rename : generateAppService (r.rename f) (c.rename f) =
    (generateAppService r c).rename f := by
  have hflag : isFlag (r.rename f) "https_only" false = isFlag r "https_only" false := rfl
  have hsite : siteConfig (r.rename f) = siteConfig r := rfl
  simp only [generateAppService, locatedBlock_rename, r.require_rename, Generation.rename_bind,
    Generation.rename_liftM, Generation.rename_pure, copyPresent_rename, hflag, hsite,
    withTags_rename]

theorem generateStorageAccount_rename : generateStorageAccount (r.rename f) (c.rename f) =
    (generateStorageAccount r c).rename f := by
  have hname : checkAccountName (r.rename f) (c.rename f) =
      (checkAccountName r c).mapError (·.rename f) := by
    rw [checkAccountName, checkAccountName, c.resolvedName_rename]
    split <;> rfl
  simp only [generateStorageAccount, hname, locatedBlock_rename, settingValue_rename,
    Generation.rename_bind, Generation.rename_liftM, Generation.rename_pure, copyPresent_rename,
    withTags_rename]

theorem generateKeyVault_rename : generateKeyVault (r.rename f) (c.rename f) =
    (generateKeyVault r c).rename f := by
  simp only [generateKeyVault, vaultOutputs, List.forIn_cons, List.forIn_nil, locatedBlock_rename,
    settingValue_rename, Generation.rename_bind, Generation.rename_liftM, Generation.rename_pure,
    Generation.rename_declareOutput, r.property?_rename, c.label_rename, c.resolvedName_rename,
    withTags_rename, bind_assoc, pure_bind]
  rfl

variable {f}

theorem generateSubnet_rename (hf : Function.Injective f) :
    generateSubnet (r.rename f) (c.rename f) = (generateSubnet r c).rename f := by
  have hid : (r.rename f).id = f r.id := rfl
  have hassociation : associationBlock (c.rename f) = associationBlock c := rfl
  unfold generateSubnet
  rw [r.present?_rename]
  cases r.present? "network_security_group_id" with
  | none =>
    simp only [subnetResourceGroup_rename, r.require_rename, Generation.rename_bind,
      Generation.rename_liftM, Generation.rename_pure, copyPresent_rename, c.label_rename,
      c.resolvedName_rename]
  | some securityGroup =>
    simp only [subnetResourceGroup_rename, r.require_rename, hid, c.attributeOf_rename hf,
      Generation.rename_bind, Generation.rename_liftM, Generation.rename_pure, copyPresent_rename,
      hassociation, c.label_rename, c.resolvedName_rename]

/-- The Azure generators do the same for renamed resources. -/
theorem equivariant_catalog (hf : Function.Injective f) : catalog.Equivariant f := by
  intro typeId type htype r c
  have hmem := (get?_types_catalog.mp htype).1
  simp only [resourceTypes, List.mem_cons, List.not_mem_nil, or_false] at hmem
  rcases hmem with rfl | rfl | rfl | rfl | rfl | rfl | rfl | rfl | rfl | rfl
  · rfl
  · exact generateResourceGroup_rename f r c
  · exact generateVirtualNetwork_rename f r c
  · exact generateSubnet_rename r c hf
  · exact generateNetworkSecurityGroup_rename f r c
  · exact generatePublicIp_rename f r c
  · exact generateAppServicePlan_rename f r c
  · exact generateAppService_rename f r c
  · exact generateStorageAccount_rename f r c
  · exact generateKeyVault_rename f r c

/-- What is written does not depend on ids: a diagram whose nodes and edges are renamed, no two nodes
becoming one, fails with the same fault or gives the same configuration, and the findings correspond
one by one. -/
theorem compile_ignores_ids (d : Diagram) (f g : String → String) (hf : Function.Injective f) :
    (∃ e, d.compile catalog = .error e ∧
      (d.rename f g).compile catalog = .error (e.rename f g)) ∨
    ∃ c renamed, d.compile catalog = .ok c ∧ (d.rename f g).compile catalog = .ok renamed ∧
      c.WrittenAlike renamed ∧
      List.Forall₂ (Finding.Corresponds f g) c.findings renamed.findings :=
  d.compile_rename hf (equivariant_catalog hf)

/-- A vault that loses its own resource group to a connection, and an account that has none. -/
def lostGroupDiagram : Diagram where
  nodes :=
    [groupNode "group",
     (vaultNode "vault").setProperty "resource_group_name" (.string "other"),
     { id := "account", typeId := TypeId.storageAccount, name := "store" }]
  edges := [groupEdge "group" "vault"]

def nodeName (id : String) : String := "node-" ++ id

def edgeName (id : String) : String := "edge-" ++ id

theorem compile_ignores_ids_group :
    Function.Injective nodeName ∧ ∃ c renamed, lostGroupDiagram.compile catalog = .ok c ∧
      (lostGroupDiagram.rename nodeName edgeName).compile catalog = .ok renamed ∧
      c.WrittenAlike renamed ∧
      List.Forall₂ (Finding.Corresponds nodeName edgeName) c.findings renamed.findings ∧
      renamed.findings.map (fun found => (found.kind, found.node, found.edge)) =
        [(.referenceOverwroteValue, some "node-vault", some "edge-contains"),
         (.generatorFailed, some "node-account", none)] := by
  have hinjective : Function.Injective nodeName := fun a b h => by simpa [nodeName] using h
  refine ⟨hinjective, ?_⟩
  rcases compile_ignores_ids lostGroupDiagram nodeName edgeName hinjective with
    ⟨e, he, _⟩ | ⟨c, renamed, hc, hrenamed, halike, hfindings⟩
  · have hcheck : lostGroupDiagram.check = .ok () := by decide
    rw [Diagram.compile, hcheck] at he
    cases he
  · refine ⟨c, renamed, hc, hrenamed, halike, hfindings, ?_⟩
    rw [← (Diagram.compile_eq_ok_iff.mp hrenamed).2]
    decide +kernel

end Azure

end Groundplan
