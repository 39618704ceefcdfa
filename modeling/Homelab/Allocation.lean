import Homelab.Failure
import Homelab.Inventory

/-!
# Allocation

A free machine number is the lowest of the range of its resource that no machine,
template or reservation holds.  A free address is the lowest of the static range of
a network that is neither its gateway nor its name server, nor the address of any
machine or reservation, on whatever network.

Allocation reads the inventory and changes nothing: the same inventory and request
always have the same answer.
-/

namespace Homelab

/-- The lowest number of an interval, both ends included, that is not taken. -/
def lowestFree? (taken : Nat → Bool) (first last : Nat) : Option Nat :=
  if last < first then none
  else if taken first then lowestFree? taken (first + 1) last
  else some first
termination_by last + 1 - first

/-- The kinds of things that take a machine number. -/
inductive Resource where
  | baremetal
  | vm
  | lxc
  | template
deriving DecidableEq

namespace Resource

/-- The resources by name. -/
def named : List (String × Resource) :=
  [("baremetal", baremetal), ("vm", vm), ("lxc", lxc), ("template", template)]

/-- The name of a resource. -/
def name : Resource → String
  | baremetal => "baremetal"
  | vm => "vm"
  | lxc => "lxc"
  | template => "template"

/-- The lowest machine number of a resource. -/
def first : Resource → Nat
  | baremetal => 0
  | vm => 100
  | lxc => 200
  | template => 300

/-- The highest machine number of a resource. -/
def last (r : Resource) : Nat := r.first + 99

end Resource

namespace Inventory

/-- The lowest free machine number of a resource. -/
def freeVmid? (inv : Inventory) (r : Resource) : Option Nat :=
  lowestFree? (fun n => inv.usedVmids.contains (n : Int)) r.first r.last

/-- A free machine number for a resource given by name. -/
def nextVmid (inv : Inventory) (resource : String) : Except Failure Int :=
  match Resource.named.lookup resource with
  | none => .error (.unknownResource resource)
  | some r =>
      match inv.freeVmid? r with
      | some n => .ok n
      | none => .error (.machineNumbersTaken resource)

/-- The texts of all addresses that count as taken on a network. -/
def claimedTexts (inv : Inventory) (network : String) : List String :=
  (match inv.network? network with
    | some n => [n.gateway, n.dns]
    | none => []) ++
    inv.hostAddressTexts ++ inv.reserved.ips.map Reservation.value

/-- The addresses that count as taken on a network. -/
def takenAddresses (inv : Inventory) (network : String) : List Address :=
  (inv.claimedTexts network).filterMap addressOf?

/-- The texts that stand where an address should and are none; they take nothing. -/
def unreadableAddresses (inv : Inventory) (network : String) : List String :=
  (inv.claimedTexts network).filter fun s => (addressOf? s).isNone

/-- The numbers of the addresses of one family that count as taken on a network. -/
def takenNumbers (inv : Inventory) (network : String) (family : Family) : List Nat :=
  ((inv.takenAddresses network).filter fun a => a.family = family).map Address.number

end Inventory

namespace Network

/-- The ends of the static range of a network, or what is wrong with it. -/
def interval (n : Network) : Except Failure (Address × Address) :=
  match n.staticRange with
  | some ⟨some first, some last, _⟩ =>
      if first = "" ∨ last = "" then .error (.range n.name .unset)
      else
        match addressOf? first, addressOf? last with
        | none, _ => .error (.range n.name (.notAnAddress (Text.quoted first)))
        | some _, none => .error (.range n.name (.notAnAddress (Text.quoted last)))
        | some a, some b =>
            if a.family ≠ b.family then .error (.range n.name .mixedFamilies)
            else if b.number < a.number then .error (.range n.name .reversed)
            else .ok (a, b)
  | _ => .error (.range n.name .unset)

/-- The text of an address of a network: with the length of the subnet, if the
subnet is written with one. -/
def addressText (a : Address) : Option Nat → String
  | some length => a.text ++ "/" ++ toString length
  | none => a.text

end Network

namespace Inventory

/-- The ends of the static range of a network given by name. -/
def intervalOf (inv : Inventory) (network : String) :
    Except Failure (Network × Address × Address) :=
  match inv.network? network with
  | none => .error (.networkNotFound network)
  | some n => n.interval.map fun ends => (n, ends)

/-- The lowest free address between two ends of one family. -/
def freeAddress? (inv : Inventory) (network : String) (a b : Address) : Option Address :=
  (lowestFree? (fun k => (inv.takenNumbers network a.family).contains k) a.number b.number).map
    fun k => ⟨a.family, k⟩

/-- A free address of a network given by name, as text. -/
def nextAddress (inv : Inventory) (network : String) : Except Failure String :=
  match inv.intervalOf network with
  | .error e => .error e
  | .ok (n, a, b) =>
      match subnetLength? n.subnet with
      | .error reason => .error (.value reason)
      | .ok length =>
          match inv.freeAddress? network a b with
          | some free => .ok (Network.addressText free length)
          | none => .error (.addressesTaken network)

/-- What the operator is told while a free address is looked for: the unreadable
addresses, if the search comes as far as to look at them. -/
def addressNotes (inv : Inventory) (network : String) : List String :=
  match inv.intervalOf network with
  | .ok _ => inv.unreadableAddresses network
  | .error _ => []

/-- The warning about an unreadable address, which is given in quotes. -/
def unreadableNote (network quoted : String) : String :=
  "Ignoring invalid address " ++ quoted ++ " on network " ++ network

end Inventory
end Homelab
