import Homelab.Proofs.Allocation
import Homelab.Proofs.Inventory.WellFormed
import Homelab.Proofs.Outcome
import Homelab.Resolution

/-!
# Calls of a ledger

A call asks a ledger for a machine number or an address, or gives one back.  Whatever
the call, there are only three things that it can do to the entries of its kind, and it
does nothing to those of the other kind.

A call changes a ledger in several places, one after another, and whatever was changed
before a failure stays changed.  Nothing is: a call fails before its first change.
-/

namespace Homelab

/-- A call of a ledger: the kind of value that it is about, whether one is reserved or
released, the name of the resource or of the network, and the token. -/
structure Call where
  kind : ReservedKind
  mode : Ledger.Mode
  name : String
  token : String

namespace Call

/-- The request that a call makes. -/
def perform (c : Call) : Ledger.Run Allocated :=
  match c.kind with
  | .vmid => .vmid <$> (Ledger.registry c.mode).vmid c.name c.token
  | .ip => .ip <$> (Ledger.registry c.mode).ip c.name c.token

end Call

/-- An address is reserved as soon as there is a free one that can be read. -/
theorem Inventory.reserveIp_eq
    {inv : Inventory} {network token : String}
    (h : inv.reservedIp? token = none) :
    inv.reserveIp network token =
      match inv.nextAddress network with
      | .error e => .error e
      | .ok ip =>
          if (Interface.read? ip).isSome then
            .ok (ip, { inv with reserved := inv.reserved.addIp ip token })
          else .error (.record [⟨[.key "ip"], .rule (notAnAddress .interface ip)⟩]) := by
  rw [reserveIp, h]
  cases inv.nextAddress network <;> rfl

namespace Ledger

/-- The ledger after a call, however it ended. -/
def after (l : Ledger) (c : Call) : Ledger := (outcome c.perform l).2

/-- The ledger after some calls. -/
def afterAll (l : Ledger) (calls : List Call) : Ledger := calls.foldl after l

theorem afterAll_append
    (l : Ledger) (calls calls' : List Call) :
    l.afterAll (calls ++ calls') = (l.afterAll calls).afterAll calls' :=
  List.foldl_append

/-! ### One change after another -/

/-- A change of the ledger. -/
def change (f : Ledger → Ledger) : Run Unit := modify f

/-- A machine number is told or reserved, one change after another. -/
def vmidInSteps (resource token : String) : Run Int := do
  match (← get).inventory.reservedVmid? token with
  | some e =>
      change fun l => l.note token (.vmid e.value)
      return e.value
  | none =>
      match (← get).inventory.nextVmid resource with
      | .error e => throw e
      | .ok n =>
          change fun l =>
            { l with
              inventory :=
                { l.inventory with reserved := l.inventory.reserved.addVmid n token } }
          change fun l => { l with added := l.added.addVmid n token }
          change fun l => l.note token (.vmid n)
          return n

/-- An address is told or reserved, one change after another. -/
def ipInSteps (network token : String) : Run String := do
  match (← get).inventory.reservedIp? token with
  | some e =>
      change fun l => l.note token (.ip e.value)
      return e.value
  | none =>
      match (← get).inventory.nextAddress network with
      | .error e => throw e
      | .ok ip =>
          unless (Interface.read? ip).isSome do
            throw (.record [⟨[.key "ip"], .rule (notAnAddress .interface ip)⟩])
          change fun l =>
            { l with
              inventory :=
                { l.inventory with reserved := l.inventory.reserved.addIp ip token } }
          change fun l => { l with added := l.added.addIp ip token }
          change fun l => l.note token (.ip ip)
          return ip

/-- A machine number is released, one change after another. -/
def releaseVmidInSteps (token : String) : Run Int := do
  match Reservation.find? token (← get).removed.vmids with
  | some e => return e.value
  | none =>
      match (← get).inventory.reservedVmid? token with
      | none => throw (.nothingToRelease .vmid token)
      | some e =>
          change fun l => { l with inventory := l.inventory.releaseVmid token }
          change fun l => { l with removed := { l.removed with vmids := l.removed.vmids ++ [e] } }
          change fun l => l.note token (.vmid e.value)
          return e.value

/-- An address is released, one change after another. -/
def releaseIpInSteps (token : String) : Run String := do
  match Reservation.find? token (← get).removed.ips with
  | some e => return e.value
  | none =>
      match (← get).inventory.reservedIp? token with
      | none => throw (.nothingToRelease .ip token)
      | some e =>
          change fun l => { l with inventory := l.inventory.releaseIp token }
          change fun l => { l with removed := { l.removed with ips := l.removed.ips ++ [e] } }
          change fun l => l.note token (.ip e.value)
          return e.value

end Ledger

/-- A call that makes its changes one after another. -/
def Call.performInSteps (c : Call) : Ledger.Run Allocated :=
  match c.kind, c.mode with
  | .vmid, .reserve => .vmid <$> Ledger.vmidInSteps c.name c.token
  | .vmid, .release => .vmid <$> Ledger.releaseVmidInSteps c.token
  | .ip, .reserve => .ip <$> Ledger.ipInSteps c.name c.token
  | .ip, .release => .ip <$> Ledger.releaseIpInSteps c.token

namespace Ledger

theorem outcome_serve
    {α : Type} (request : Ledger → Except Failure (α × Ledger)) (l : Ledger) :
    outcome (serve request) l =
      match request l with
      | .ok (a, next) => (.ok a, next)
      | .error e => (.error e, l) := by
  rw [serve, outcome_bind, outcome_get]
  rcases h : request l with e | ⟨a, next⟩ <;> simp [h, Except.map]

/-- A machine number is reserved for a token that has none. -/
theorem after_reserveVmid
    {l : Ledger} {resource token : String} {n : Int}
    (hnew : l.inventory.reservedVmid? token = none)
    (hnext : l.inventory.nextVmid resource = .ok n) :
    l.after ⟨.vmid, .reserve, resource, token⟩ =
      { l with
        inventory := { l.inventory with reserved := l.inventory.reserved.addVmid n token }
        added := l.added.addVmid n token
        handedOut := record token (.vmid n) l.handedOut } := by
  rw [after, Call.perform]
  simp only [registry, requestVmid, outcome_map, outcome_serve, vmid, hnew, Inventory.reserveVmid,
    hnext, Except.map]
  rfl

theorem outcome_vmidInSteps
    (resource token : String) (l : Ledger) :
    outcome (vmidInSteps resource token) l =
      outcome (serve fun l => l.vmid resource token) l := by
  rw [outcome_serve, vmidInSteps, vmid]
  cases hfind : l.inventory.reservedVmid? token with
  | some e => simp [hfind, change, Except.map]
  | none =>
      cases hnext : l.inventory.nextVmid resource with
      | error e => simp [hfind, hnext, Inventory.reserveVmid, Except.map]
      | ok n => simp [hfind, hnext, Inventory.reserveVmid, Except.map, change]

theorem outcome_ipInSteps
    (network token : String) (l : Ledger) :
    outcome (ipInSteps network token) l =
      outcome (serve fun l => l.ip network token) l := by
  rw [outcome_serve, ipInSteps, ip]
  cases hfind : l.inventory.reservedIp? token with
  | some e => simp [hfind, change, Except.map]
  | none =>
      rw [Inventory.reserveIp_eq hfind]
      cases hnext : l.inventory.nextAddress network with
      | error e => simp [hfind, hnext, Except.map]
      | ok ip =>
          by_cases hip : (Interface.read? ip).isSome
          · simp [hfind, hnext, hip, Except.map, change]
          · simp [hfind, hnext, hip, Except.map]

theorem outcome_releaseVmidInSteps
    (token : String) (l : Ledger) :
    outcome (releaseVmidInSteps token) l =
      outcome (serve fun l => l.releaseVmid token) l := by
  rw [outcome_serve, releaseVmidInSteps, releaseVmid]
  cases hremoved : Reservation.find? token l.removed.vmids with
  | some e => simp [hremoved]
  | none =>
      cases hfind : l.inventory.reservedVmid? token with
      | none => simp [hremoved, hfind]
      | some e => simp [hremoved, hfind, change, Except.map]

theorem outcome_releaseIpInSteps
    (token : String) (l : Ledger) :
    outcome (releaseIpInSteps token) l =
      outcome (serve fun l => l.releaseIp token) l := by
  rw [outcome_serve, releaseIpInSteps, releaseIp]
  cases hremoved : Reservation.find? token l.removed.ips with
  | some e => simp [hremoved]
  | none =>
      cases hfind : l.inventory.reservedIp? token with
      | none => simp [hremoved, hfind]
      | some e => simp [hremoved, hfind, change, Except.map]

end Ledger

/-- A call makes its changes one after another, and ends as the request does. -/
theorem Call.outcome_performInSteps
    (c : Call) (l : Ledger) :
    outcome c.performInSteps l = outcome c.perform l := by
  obtain ⟨kind, mode, name, token⟩ := c
  cases kind <;> cases mode <;>
    simp only [performInSteps, perform, Ledger.registry, Ledger.requestVmid, Ledger.requestIp,
      outcome_map, Ledger.outcome_vmidInSteps, Ledger.outcome_ipInSteps,
      Ledger.outcome_releaseVmidInSteps, Ledger.outcome_releaseIpInSteps]

/-- A call that fails leaves the ledger as it was. -/
theorem Call.failed_unchanged
    {c : Call} {l : Ledger} {e : Failure}
    (h : (outcome c.performInSteps l).1 = .error e) :
    (outcome c.performInSteps l).2 = l := by
  rw [outcome_performInSteps] at h ⊢
  obtain ⟨kind, mode, name, token⟩ := c
  cases kind with
  | vmid =>
      simp only [perform, Ledger.registry, outcome_map, Ledger.outcome_serve] at h ⊢
      cases hr : l.requestVmid mode name token with
      | error e => rfl
      | ok r => simp [hr, Except.map] at h
  | ip =>
      simp only [perform, Ledger.registry, outcome_map, Ledger.outcome_serve] at h ⊢
      cases hr : l.requestIp mode name token with
      | error e => rfl
      | ok r => simp [hr, Except.map] at h

end Homelab
