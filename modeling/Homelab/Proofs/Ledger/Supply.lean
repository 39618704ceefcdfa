import Homelab.Proofs.Allocation.Subnet
import Homelab.Proofs.Ledger.Answers

/-!
# What a name has to give

A token asks for a value by a name: of a resource, or of a network.  The supply of the name
are the free values of its range, the lowest first.  A token without a reservation gets the
first of them, and if there is none the request fails.  What has been given is missing from
the supply of every name from then on, and nothing else is.
-/

namespace Homelab

open Reservation

/-! ### Free numbers in a list -/

/-- The machine numbers of a resource, the lowest first. -/
def Resource.numbers (r : Resource) : List Int :=
  (List.range' r.first (r.last + 1 - r.first)).map Int.ofNat

/-- The addresses of the static range of a network, the lowest first. -/
def Network.addresses (n : Network) : List Address :=
  match n.ends? with
  | some (a, b) => (List.range' a.number (b.number + 1 - a.number)).map (Address.mk a.family)
  | none => []

namespace Inventory

instance (inv : Inventory) (n : Network) (x : Address) : Decidable (inv.UsesAddress n x) :=
  inferInstanceAs (Decidable ((_ ∨ _) ∨ _ ∨ _))

/-- The free machine numbers of a resource, the lowest first. -/
def freeVmids (inv : Inventory) (r : Resource) : List Int :=
  r.numbers.filter fun n => n ∉ inv.usedVmids

/-- The free addresses of a network, the lowest first. -/
def freeAddresses (inv : Inventory) (n : Network) : List Address :=
  n.addresses.filter fun x => ¬ inv.UsesAddress n x

end Inventory

namespace Network

/-- The static range and the subnet of a network are of one family. -/
def IsOneFamily (n : Network) : Prop :=
  ∃ a b i, n.ends? = some (a, b) ∧ Interface.read? n.subnet = some i ∧
    i.address.family = a.family

end Network

namespace ReservedKind

/-! ### Names and their supplies -/

/-- The values of the range that a name stands for, the lowest first. -/
def range : (k : ReservedKind) → Inventory → String → List k.Thing
  | .vmid, _, resource => ((Resource.named.lookup resource).map Resource.numbers).getD []
  | .ip, inv, network => ((inv.network? network).map Network.addresses).getD []

/-- The free values of the range that a name stands for, the lowest first. -/
def supply : (k : ReservedKind) → Inventory → String → List k.Thing
  | .vmid, inv, resource => ((Resource.named.lookup resource).map inv.freeVmids).getD []
  | .ip, inv, network => ((inv.network? network).map inv.freeAddresses).getD []

instance (k : ReservedKind) : DecidableEq k.Thing :=
  match k with
  | .vmid => inferInstanceAs (DecidableEq Int)
  | .ip => inferInstanceAs (DecidableEq Address)

/-- A name stands for a range whose values can be handed out. -/
def Knows : ReservedKind → Inventory → String → Prop
  | .vmid, _, resource => ∃ r, Resource.named.lookup resource = some r
  | .ip, inv, network => ∃ n ∈ inv.networks, n.name = network ∧ n.IsOneFamily

/-- The failure of a request when the supply is used up. -/
def noneLeft : ReservedKind → String → Failure
  | .vmid => .machineNumbersTaken
  | .ip => .addressesTaken

/-- The value that a token without a reservation is offered under a name.  An address that
cannot have the length of its network's subnet is not offered. -/
def offer : (k : ReservedKind) → Inventory → String → Except Failure k.Bound
  | .vmid, inv, resource => inv.nextVmid resource
  | .ip, inv, network =>
      match inv.nextAddress network with
      | .error e => .error e
      | .ok text =>
          if (Interface.read? text).isSome then .ok text
          else .error (.record [⟨[.key "ip"], .rule (notAnAddress .interface text)⟩])

/-- The ledger with one more entry of a kind, which the run has made and handed out. -/
def handOut (k : ReservedKind) (l : Ledger) (value : k.Bound) (token : String) : Ledger :=
  (k.withBook l
    ⟨(k.book l).live ++ [⟨value, token, []⟩], (k.book l).added ++ [⟨value, token, []⟩],
      (k.book l).removed⟩).note token (k.allocated value)

/-- A token without a reservation gets what is offered, or there is the failure of the
offer and nothing else. -/
theorem outcome_new
    {k : ReservedKind} {l : Ledger} {token : String}
    (h : find? token (k.book l).live = none)
    (name : String) :
    outcome (Call.perform ⟨k, .reserve, name, token⟩) l =
      match k.offer l.inventory name with
      | .error e => (.error e, l)
      | .ok value => (.ok (k.allocated value), k.handOut l value token) := by
  cases k with
  | vmid =>
      have hfind : l.inventory.reservedVmid? token = none := h
      simp only [Call.perform, Ledger.registry, Ledger.requestVmid, outcome_map,
        Ledger.outcome_serve, Ledger.vmid, hfind, Inventory.reserveVmid, offer]
      cases l.inventory.nextVmid name <;> rfl
  | ip =>
      have hfind : l.inventory.reservedIp? token = none := h
      simp only [Call.perform, Ledger.registry, Ledger.requestIp, outcome_map,
        Ledger.outcome_serve, Ledger.ip, hfind, Inventory.reserveIp_eq hfind, offer]
      cases l.inventory.nextAddress name with
      | error e => rfl
      | ok text =>
          by_cases hread : (Interface.read? text).isSome
          · simp only [hread, if_true]
            rfl
          · simp only [hread]
            rfl

/-- An address that is offered is the next one of the network, and can be read. -/
theorem nextAddress_of_offer
    {inv : Inventory} {network text : String}
    (h : offer .ip inv network = .ok text) :
    inv.nextAddress network = .ok text ∧ (Interface.read? text).isSome = true := by
  simp only [offer] at h
  cases hnext : inv.nextAddress network with
  | error e => simp [hnext] at h
  | ok next =>
      by_cases hread : (Interface.read? next).isSome
      · simp only [hnext, hread, if_true, Except.ok.injEq] at h
        subst h
        exact ⟨rfl, hread⟩
      · simp [hnext, hread] at h

end ReservedKind
end Homelab
