import Groundplan.Azure.Placement
import Groundplan.Azure.TypeId

/-!
# Azure networks

Virtual networks, subnets, network security groups and public addresses. A subnet without a resource
group of its own takes that of its network, and brings a second block that associates it with a
security group if it is connected to one.
-/

namespace Groundplan.Azure

/-- A required property that holds address ranges. -/
def rangeSchema (key label default : String) : PropertySchema where
  key := key
  label := label
  kind := .cidr
  required := true
  default := some (.list [.string default])
  validation := some
    { pattern := some "^\\d\x7b1,3\x7d(\\.\\d\x7b1,3\x7d)\x7b3\x7d/\\d\x7b1,2\x7d$" }

def generateVirtualNetwork : Generator := fun r c => do
  let block ← locatedBlock "azurerm_virtual_network" r c
  let space ← r.require "address_space"
  return [withTags (copyPresent (block.set "address_space" space.toValue) r "dns_servers") c]

/-- The resource group of a subnet: its own, or that of the network it refers to. -/
def subnetResourceGroup (r : Resource) : Except ResourceError Value :=
  match resourceGroupName r with
  | .ok value => .ok value
  | .error e =>
    match besideReference? r "virtual_network_name" "resource_group_name" with
    | some value => .ok value
    | none => .error e

def associationBlock (c : Context) (subnetId : String) (group : Property) : Block :=
  Block.resource "azurerm_subnet_network_security_group_association" c.label
    |>.set "subnet_id" (.expression subnetId)
    |>.set "network_security_group_id" group.toValue

def generateSubnet : Generator := fun r c => do
  let group ← subnetResourceGroup r
  let network ← r.require "virtual_network_name"
  let ranges ← r.require "address_prefixes"
  let subnet := copyPresent (Block.resource "azurerm_subnet" c.label
    |>.set "name" (.string c.resolvedName)
    |>.set "resource_group_name" group
    |>.set "virtual_network_name" network.toValue
    |>.set "address_prefixes" ranges.toValue) r "service_endpoints"
  match r.present? "network_security_group_id" with
  | none => return [subnet]
  | some securityGroup => do
    let subnetId ← c.attributeOf r.id "id"
    return [subnet, associationBlock c subnetId securityGroup]

def generateNetworkSecurityGroup : Generator := fun r c => do
  let block ← locatedBlock "azurerm_network_security_group" r c
  return [withTags block c]

/-- The way in which a public address is allocated; an address of the standard kind must be a fixed
one. -/
def allocationMethod (r : Resource) : Except ResourceError String := do
  let allocation ← r.requireString "allocation_method"
  if r.stringOr "sku" "Standard" = "Standard" ∧ allocation ≠ "Static" then
    throw (.invalidProperty r.id "allocation_method" "Static for a Standard SKU public IP")
  return allocation

def generatePublicIp : Generator := fun r c => do
  let allocation ← allocationMethod r
  let block ← locatedBlock "azurerm_public_ip" r c
  return [withTags (copyPresent (block
    |>.set "allocation_method" (.string allocation)
    |>.set "sku" (.string (r.stringOr "sku" "Standard"))) r "domain_name_label") c]

def virtualNetworkType : ResourceType where
  typeId := TypeId.virtualNetwork
  provider := providerId
  terraformType := some "azurerm_virtual_network"
  schema :=
    [rangeSchema "address_space" "Address Space" "10.0.0.0/16",
     { key := "dns_servers", label := "DNS Servers", kind := .array }]
  icon := some "vnet"
  nodeComponent := some "container"
  generate := generateVirtualNetwork

def subnetType : ResourceType where
  typeId := TypeId.subnet
  provider := providerId
  terraformType := some "azurerm_subnet"
  schema :=
    [rangeSchema "address_prefixes" "Address Prefixes" "10.0.1.0/24",
     { key := "virtual_network_name", label := "Virtual Network", kind := .reference
       required := true },
     { key := "service_endpoints", label := "Service Endpoints", kind := .array }]
  icon := some "subnet"
  nodeComponent := some "container"
  generate := generateSubnet

def networkSecurityGroupType : ResourceType where
  typeId := TypeId.networkSecurityGroup
  provider := providerId
  terraformType := some "azurerm_network_security_group"
  constraints := some { maxLength := some 80 }
  icon := some "nsg"
  generate := generateNetworkSecurityGroup

def publicIpType : ResourceType where
  typeId := TypeId.publicIp
  provider := providerId
  terraformType := some "azurerm_public_ip"
  schema :=
    [{ key := "allocation_method", label := "Allocation Method", kind := .select, required := true
       default := some (.string "Static") },
     { key := "sku", label := "SKU", kind := .select, default := some (.string "Standard") },
     { key := "domain_name_label", label := "DNS Label", kind := .string }]
  icon := some "public-ip"
  generate := generatePublicIp

def subnetRule : Rule where
  endpoints := ⟨TypeId.virtualNetwork, "subnets", TypeId.subnet, "vnet-in"⟩
  reference := some ⟨.target, "virtual_network_name", some "name"⟩
  label := some "Contains subnet"

def securityGroupRule : Rule where
  endpoints := ⟨TypeId.networkSecurityGroup, "nsg-out", TypeId.subnet, "nsg-in"⟩
  reference := some ⟨.target, "network_security_group_id", none⟩
  label := some "Associates NSG with subnet"

def networkingPlugin : Plugin where
  id := "azurerm/networking"
  providerId := providerId
  types := [virtualNetworkType, subnetType, networkSecurityGroupType, publicIpType]
  rules := [subnetRule, securityGroupRule]

end Groundplan.Azure
