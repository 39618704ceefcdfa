import Homelab.Inventory
import Homelab.Text.Quoted

/-!
# What an inventory has to keep to

Rules that tie the parts of an inventory together: names and tokens are unique,
static ranges are intervals of one family, machines sit on known networks, and no
reserved number or address is reserved twice or in use by a machine or template.

`Inventory.fault?` finds the first rule that is broken, in a fixed order;
`Inventory.Valid` states the rules one by one.
-/

namespace Homelab

/-- The values that occur again, in the order in which they do so first. -/
def repeated {α : Type} [DecidableEq α] : (seen found : List α) → List α → List α
  | _, found, [] => found
  | seen, found, a :: rest =>
      repeated (a :: seen) (if a ∈ seen ∧ a ∉ found then found ++ [a] else found) rest

/-- The values that occur more than once. -/
def duplicates {α : Type} [DecidableEq α] (values : List α) : List α :=
  repeated [] [] values

/-- A broken rule. -/
inductive InventoryFault where
  | repeatedNetworks (names : List String)
  | repeatedTemplates (names : List String)
  | mixedRange (network : String)
  | reversedRange (network : String)
  | unknownNetwork (host network : String)
  | repeatedVmidTokens (tokens : List String)
  | repeatedIpTokens (tokens : List String)
  | repeatedVmids (vmids : List Int)
  | committedVmid (vmid : Int) (token : String)
  | repeatedAddresses (addresses : List Address)
  | assignedAddress (ip token : String)
deriving DecidableEq

namespace InventoryFault

/-- The sentence about a broken rule. -/
def message : InventoryFault → String
  | repeatedNetworks names => "duplicate network names: " ++ Text.quotedList names
  | repeatedTemplates names => "duplicate template names: " ++ Text.quotedList names
  | mixedRange network => "static_range of network " ++ network ++ " mixes IPv4 and IPv6"
  | reversedRange network =>
      "static_range start is greater than end for network " ++ network
  | unknownNetwork host network =>
      "host " ++ host ++ " references unknown network " ++ network
  | repeatedVmidTokens tokens =>
      "duplicate refId in reserved.vmids: " ++ Text.quotedList tokens
  | repeatedIpTokens tokens => "duplicate refId in reserved.ips: " ++ Text.quotedList tokens
  | repeatedVmids vmids =>
      "vmid reserved more than once: [" ++ ", ".intercalate (vmids.map toString) ++ "]"
  | committedVmid vmid token =>
      "reserved vmid " ++ toString vmid ++ " (" ++ token ++ ") is already committed"
  | repeatedAddresses addresses =>
      "address reserved more than once: " ++ Text.quotedList (addresses.map Address.text)
  | assignedAddress ip token =>
      "reserved ip " ++ ip ++ " (" ++ token ++ ") is already assigned to a host"

end InventoryFault

/-- The two ends of a static range, if both are addresses. -/
def Network.ends? (n : Network) : Option (Address × Address) :=
  match n.staticRange with
  | some ⟨some first, some last, _⟩ =>
      match addressOf? first, addressOf? last with
      | some a, some b => some (a, b)
      | _, _ => none
  | _ => none

/-- What is wrong with the static range of a network. -/
def Network.rangeFault? (n : Network) : Option InventoryFault :=
  match n.ends? with
  | some (a, b) =>
      if a.family ≠ b.family then some (.mixedRange n.name)
      else if b.number < a.number then some (.reversedRange n.name)
      else none
  | none => none

namespace Inventory

/-- The fault of a list of repeated values, if there are any. -/
def repeatFault {α : Type} (make : List α → InventoryFault) (found : List α) :
    Option InventoryFault :=
  if found.isEmpty then none else some (make found)

/-- An interface on a network that the inventory does not have. -/
def strayInterface? (inv : Inventory) : Option InventoryFault :=
  inv.hosts.findSome? fun h =>
    (h.interfaces.find? fun i => !(inv.networks.map Network.name).contains i.network).map fun i =>
      .unknownNetwork h.name i.network

/-- A reserved number that a machine or template has. -/
def committedVmid? (inv : Inventory) : Option InventoryFault :=
  (inv.reserved.vmids.find? fun e => inv.committedVmids.contains e.value).map fun e =>
    .committedVmid e.value e.token

/-- The reserved addresses. -/
def reservedAddresses (inv : Inventory) : List Address :=
  inv.reserved.ips.filterMap fun e => addressOf? e.value

/-- A reserved address that a machine has. -/
def assignedAddress? (inv : Inventory) : Option InventoryFault :=
  (inv.reserved.ips.find? fun e =>
    match addressOf? e.value with
    | some a => inv.hostAddresses.contains a
    | none => false).map fun e => .assignedAddress e.value e.token

/-- The rules in the order in which they are checked. -/
def faults (inv : Inventory) : List (Option InventoryFault) :=
  [repeatFault .repeatedNetworks (duplicates (inv.networks.map Network.name)),
   repeatFault .repeatedTemplates (duplicates (inv.templates.map Template.name)),
   inv.networks.findSome? Network.rangeFault?,
   inv.strayInterface?,
   repeatFault .repeatedVmidTokens (duplicates (inv.reserved.vmids.map Reservation.token)),
   repeatFault .repeatedIpTokens (duplicates (inv.reserved.ips.map Reservation.token)),
   repeatFault .repeatedVmids (duplicates (inv.reserved.vmids.map Reservation.value)),
   inv.committedVmid?,
   repeatFault .repeatedAddresses (duplicates inv.reservedAddresses),
   inv.assignedAddress?]

/-- The first broken rule. -/
def fault? (inv : Inventory) : Option InventoryFault :=
  inv.faults.findSome? id

/-- The rules, one by one. -/
structure Valid (inv : Inventory) : Prop where
  networks_nodup : (inv.networks.map Network.name).Nodup
  templates_nodup : (inv.templates.map Template.name).Nodup
  ranges : ∀ n ∈ inv.networks, ∀ a b, n.ends? = some (a, b) →
    a.family = b.family ∧ a.number ≤ b.number
  interfaces : ∀ h ∈ inv.hosts, ∀ i ∈ h.interfaces, ∃ n ∈ inv.networks, n.name = i.network
  vmidTokens_nodup : (inv.reserved.vmids.map Reservation.token).Nodup
  ipTokens_nodup : (inv.reserved.ips.map Reservation.token).Nodup
  vmids_nodup : (inv.reserved.vmids.map Reservation.value).Nodup
  vmids_free : ∀ e ∈ inv.reserved.vmids, e.value ∉ inv.committedVmids
  addresses_nodup : inv.reservedAddresses.Nodup
  addresses_free : ∀ a ∈ inv.reservedAddresses, a ∉ inv.hostAddresses

end Inventory
end Homelab
