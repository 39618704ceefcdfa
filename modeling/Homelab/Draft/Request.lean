import Homelab.Draft.Allocation
import Homelab.Ledger

/-!
# Requests about a draft

What an operator may ask about a draft, and the reply: a value, the draft as it is
afterwards, and the notes that are taken down on the way.  As long as a draft is an
inventory it replies as the inventory does.  A request that fails changes nothing.
-/

namespace Homelab

/-- A request about a draft. -/
inductive Request where
  | usedVmids
  | freeVmid (resource : String)
  | takenAddresses (network : String) (family : Option Family)
  | freeAddress (network : String)
  | reserveVmid (resource token : String)
  | releaseVmid (token : String)
  | reserveIp (network token : String)
  | releaseIp (token : String)
  | findVmid (token : String)
  | findIp (token : String)
  | network (name : String)
  | template (name : String)
  | document
  | edit (place : List PlaceStep) (v : Value)

/-- The reply to a request: what comes of it, and the notes. -/
structure Reply (α : Type) where
  result : Except Failure (Value × α)
  notes : List String

namespace Reply

/-- A reply without notes. -/
def silent {α : Type} (result : Except Failure (Value × α)) : Reply α := ⟨result, []⟩

/-- A reply that leaves everything as it is. -/
def reading {α : Type} (a : α) (result : Except Failure Value) : Reply α :=
  silent (result.map fun v => (v, a))

/-- A reply about something else. -/
def map {α β : Type} (f : α → β) (r : Reply α) : Reply β :=
  ⟨r.result.map fun p => (p.1, f p.2), r.notes⟩

end Reply

/-- Numbers in their order, each once. -/
def sortedNumbers (ns : List Int) : List Int :=
  (ns.mergeSort fun a b => decide (a ≤ b)).eraseDups

/-- The numbers of addresses in their order, as texts. -/
def addressNumbers (ns : List Nat) : Value :=
  .list ((sortedNumbers (ns.map Int.ofNat)).map fun n => .str (toString n))

/-- The length of a subnet as a value. -/
def lengthValue : Option Nat → Value
  | some n => .int n
  | none => .null

namespace Inventory

/-- The reply of an inventory. -/
def reply (inv : Inventory) : Request → Reply Inventory
  | .usedVmids => .reading inv (.ok (.list ((sortedNumbers inv.usedVmids).map .int)))
  | .freeVmid resource => .reading inv ((inv.nextVmid resource).map .int)
  | .takenAddresses network family =>
      ⟨.ok (match family with
        | some f => addressNumbers (inv.takenNumbers network f)
        | none => .list [], inv), noted network (inv.unreadableAddresses network)⟩
  | .freeAddress network =>
      ⟨(inv.nextAddress network).map fun s => (.str s, inv), noted network (inv.addressNotes network)⟩
  | .reserveVmid resource token =>
      .silent ((inv.reserveVmid resource token).map fun r => (.int r.1, r.2))
  | .releaseVmid token =>
      .silent (.ok (match inv.reservedVmid? token with
        | some e => .int e.value
        | none => .null, inv.releaseVmid token))
  | .reserveIp network token =>
      ⟨(inv.reserveIp network token).map fun r => (.str r.1, r.2),
        if (inv.reservedIp? token).isSome then [] else noted network (inv.addressNotes network)⟩
  | .releaseIp token =>
      .silent (.ok (match inv.reservedIp? token with
        | some e => .str e.value
        | none => .null, inv.releaseIp token))
  | .findVmid token =>
      .reading inv (.ok (match inv.reservedVmid? token with
        | some e => .list [.int e.value, .str e.token]
        | none => .null))
  | .findIp token =>
      .reading inv (.ok (match inv.reservedIp? token with
        | some e => .list [.str e.value, .str e.token]
        | none => .null))
  | .network name =>
      .reading inv (match inv.network? name with
        | none => .ok .null
        | some n =>
            match subnetLength? n.subnet with
            | .error reason => .error (.value reason)
            | .ok length =>
                .ok (.object [("subnet", .str n.subnet), ("prefix", lengthValue length)]))
  | .template name =>
      .reading inv (.ok (match inv.template? name with
        | some t => .object [("version", .str t.version), ("vmid", .int t.vmid)]
        | none => .null))
  | .document => .reading inv inv.document
  | .edit _ _ => .silent (.error (.noSuchMember "an inventory is edited as a draft"))
where
  /-- The notes about unreadable addresses. -/
  noted (network : String) (addresses : List String) : List String :=
    addresses.map fun s => unreadableNote network (Text.quoted s)

end Inventory

namespace Draft

/-- The reply of a draft that need not be an inventory. -/
def looseReply (d : Draft) : Request → Reply Draft
  | .usedVmids => .reading d (d.sortedVmids.map fun l => .list (l.map .scalar))
  | .freeVmid resource => .reading d ((d.nextVmid resource).map .int)
  | .takenAddresses network family =>
      ⟨do match family with
        | some f => return (addressNumbers (← d.takenNumbers network f), d)
        | none => return (.list [], d), noted network (d.unreadable network)⟩
  | .freeAddress network =>
      ⟨(d.nextAddress network).map fun s => (.str s, d), noted network (d.addressNotes network)⟩
  | .reserveVmid resource token => .silent (d.reserveVmid resource token)
  | .releaseVmid token => .silent (d.release "vmids" "vmid" token)
  | .reserveIp network token =>
      ⟨d.reserveIp network token,
        match d.reservation? "ips" token with
        | .ok none => noted network (d.addressNotes network)
        | _ => []⟩
  | .releaseIp token => .silent (d.release "ips" "ip" token)
  | .findVmid token => .reading d (pair "vmid" (d.reservation? "vmids" token))
  | .findIp token => .reading d (pair "ip" (d.reservation? "ips" token))
  | .network name =>
      .reading d (do
        match ← d.network? name with
        | none => return .null
        | some n =>
            return .object [("subnet", ← n.valueOf "subnet"),
              ("prefix", lengthValue (← n.subnetLength))])
  | .template name =>
      .reading d (do
        match ← d.template? name with
        | none => return .null
        | some t =>
            return .object [("version", ← t.valueOf "version"), ("vmid", ← t.valueOf "vmid")])
  | .document => .reading d d.document
  | .edit place v => .silent ((d.edit v place).map fun next => (.null, next))
where
  /-- The notes about unreadable addresses. -/
  noted (network : String) (addresses : List Value) : List String :=
    addresses.map fun v => Inventory.unreadableNote network v.quoted
  /-- The value and the token of a reservation. -/
  pair (valueName : String) (found : Except Failure (Option Draft)) : Except Failure Value := do
    match ← found with
    | none => return .null
    | some e => return .list [← e.valueOf valueName, ← e.valueOf "ref_id"]

/-- The reply to a request. -/
def reply (d : Draft) (request : Request) : Reply Draft :=
  match request, Inventory.ofDraft? d with
  | .edit _ _, _ | _, none => d.looseReply request
  | _, some inv => (inv.reply request).map Inventory.toDraft

/-- The values and tokens of the reservations of one kind, as far as they have both. -/
def pairs (d : Draft) (name valueName : String) : List Value :=
  ((d.reservations name).toOption.getD []).filterMap fun e =>
    match e.valueOf valueName, e.valueOf "ref_id" with
    | .ok v, .ok token => some (.list [v, token])
    | _, _ => none

end Draft
end Homelab
