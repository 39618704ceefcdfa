import Homelab.Allocation

/-!
# The ledger

A reservation binds a token to a machine number or an address, so that the token
has one value on every pass and in every later run.

A ledger belongs to one run.  It carries the inventory as it stands in the run,
and apart from it the reservations that the run has made and released; only these
reach the inventory file, and only when the run has succeeded.  A request either
succeeds and gives the next ledger, or fails and changes nothing.
-/

namespace Homelab

/-- A machine number or an address. -/
inductive Allocated where
  | vmid (n : Int)
  | ip (text : String)
deriving DecidableEq

/-- The value under a token is set; a token that is there keeps its place. -/
def record {α : Type} (token : String) (value : α) : List (String × α) → List (String × α)
  | [] => [(token, value)]
  | (t, v) :: rest =>
      if t = token then (t, value) :: rest else (t, v) :: record token value rest

/-- The entries without the first one of a token. -/
def Reservation.release {α : Type} (token : String) (entries : List (Reservation α)) :
    List (Reservation α) :=
  entries.eraseP fun e => e.token = token

/-- What one run has reserved and released. -/
structure Ledger where
  inventory : Inventory
  added : Reserved
  removed : Reserved
  handedOut : List (String × Allocated)

namespace Reserved

/-- There are no reservations. -/
def isEmpty (r : Reserved) : Bool := r.vmids.isEmpty && r.ips.isEmpty

/-- One more reserved number. -/
def addVmid (r : Reserved) (n : Int) (token : String) : Reserved :=
  { r with vmids := r.vmids ++ [⟨n, token, []⟩] }

/-- One more reserved address. -/
def addIp (r : Reserved) (ip : String) (token : String) : Reserved :=
  { r with ips := r.ips ++ [⟨ip, token, []⟩] }

/-- The reservations without the number of a token. -/
def dropVmid (r : Reserved) (token : String) : Reserved :=
  { r with vmids := Reservation.release token r.vmids }

/-- The reservations without the address of a token. -/
def dropIp (r : Reserved) (token : String) : Reserved :=
  { r with ips := Reservation.release token r.ips }

end Reserved

namespace Inventory

/-- The reserved number of a token. -/
def reservedVmid? (inv : Inventory) (token : String) : Option (Reservation Int) :=
  Reservation.find? token inv.reserved.vmids

/-- The reserved address of a token. -/
def reservedIp? (inv : Inventory) (token : String) : Option (Reservation String) :=
  Reservation.find? token inv.reserved.ips

/-- The number of a token, reserved if it is not yet. -/
def reserveVmid (inv : Inventory) (resource token : String) : Except Failure (Int × Inventory) :=
  match inv.reservedVmid? token with
  | some e => .ok (e.value, inv)
  | none =>
      (inv.nextVmid resource).map fun n =>
        (n, { inv with reserved := inv.reserved.addVmid n token })

/-- The address of a token, reserved if it is not yet.  An address that cannot have
the length of its network's subnet is not reserved. -/
def reserveIp (inv : Inventory) (network token : String) : Except Failure (String × Inventory) :=
  match inv.reservedIp? token with
  | some e => .ok (e.value, inv)
  | none => do
      let ip ← inv.nextAddress network
      if (Interface.read? ip).isSome then
        return (ip, { inv with reserved := inv.reserved.addIp ip token })
      else throw (.record [⟨[.key "ip"], .rule (notAnAddress .interface ip)⟩])

/-- The inventory without the reserved number of a token. -/
def releaseVmid (inv : Inventory) (token : String) : Inventory :=
  { inv with reserved := inv.reserved.dropVmid token }

/-- The inventory without the reserved address of a token. -/
def releaseIp (inv : Inventory) (token : String) : Inventory :=
  { inv with reserved := inv.reserved.dropIp token }

end Inventory

namespace Ledger

/-- The ledger at the beginning of a run. -/
def start (inv : Inventory) : Ledger := ⟨inv, .empty, .empty, []⟩

/-- The run has reserved or released something. -/
def hasChanges (l : Ledger) : Bool := !(l.added.isEmpty && l.removed.isEmpty)

/-- A value is noted as handed out for a token. -/
def note (l : Ledger) (token : String) (value : Allocated) : Ledger :=
  { l with handedOut := record token value l.handedOut }

/-- The number of a token: its reservation, or a new one. -/
def vmid (l : Ledger) (resource token : String) : Except Failure (Int × Ledger) :=
  match l.inventory.reservedVmid? token with
  | some e => .ok (e.value, l.note token (.vmid e.value))
  | none =>
      (l.inventory.reserveVmid resource token).map fun r =>
        (r.1, { l with inventory := r.2, added := l.added.addVmid r.1 token }.note token
          (.vmid r.1))

/-- The address of a token: its reservation, or a new one. -/
def ip (l : Ledger) (network token : String) : Except Failure (String × Ledger) :=
  match l.inventory.reservedIp? token with
  | some e => .ok (e.value, l.note token (.ip e.value))
  | none =>
      (l.inventory.reserveIp network token).map fun r =>
        (r.1, { l with inventory := r.2, added := l.added.addIp r.1 token }.note token (.ip r.1))

/-- The number of a token is released; one that this run has released before is
only told again. -/
def releaseVmid (l : Ledger) (token : String) : Except Failure (Int × Ledger) :=
  match Reservation.find? token l.removed.vmids with
  | some e => .ok (e.value, l)
  | none =>
      match l.inventory.reservedVmid? token with
      | none => .error (.nothingToRelease .vmid token)
      | some e =>
          let removed := { l.removed with vmids := l.removed.vmids ++ [e] }
          .ok (e.value,
            { l with inventory := l.inventory.releaseVmid token, removed := removed }.note token
              (.vmid e.value))

/-- The address of a token is released; one that this run has released before is
only told again. -/
def releaseIp (l : Ledger) (token : String) : Except Failure (String × Ledger) :=
  match Reservation.find? token l.removed.ips with
  | some e => .ok (e.value, l)
  | none =>
      match l.inventory.reservedIp? token with
      | none => .error (.nothingToRelease .ip token)
      | some e =>
          let removed := { l.removed with ips := l.removed.ips ++ [e] }
          .ok (e.value,
            { l with inventory := l.inventory.releaseIp token, removed := removed }.note token
              (.ip e.value))

/-- A run either reserves or releases. -/
inductive Mode where
  | reserve
  | release
deriving DecidableEq

/-- A request for a machine number. -/
def requestVmid (l : Ledger) (mode : Mode) (resource token : String) :
    Except Failure (Int × Ledger) :=
  match mode with
  | .reserve => l.vmid resource token
  | .release => l.releaseVmid token

/-- A request for an address. -/
def requestIp (l : Ledger) (mode : Mode) (network token : String) :
    Except Failure (String × Ledger) :=
  match mode with
  | .reserve => l.ip network token
  | .release => l.releaseIp token

/-- The entries of the file, without those of the tokens that the run has touched,
and then the entries that the run has made. -/
def merge {α : Type} (onDisk added removed : List (Reservation α)) : List (Reservation α) :=
  (onDisk.filter fun e =>
    !((removed.map Reservation.token).contains e.token ||
      (added.map Reservation.token).contains e.token)) ++ added

/-- The inventory of the file with the changes of the run. -/
def mergedInto (l : Ledger) (disk : Inventory) : Inventory :=
  { disk with
    reserved :=
      { disk.reserved with
        vmids := merge disk.reserved.vmids l.added.vmids l.removed.vmids
        ips := merge disk.reserved.ips l.added.ips l.removed.ips } }

/-- The ledger once its changes are in the file. -/
def settled (l : Ledger) : Ledger := { l with added := .empty, removed := .empty }

end Ledger
end Homelab
