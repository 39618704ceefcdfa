import Homelab.Allocation
import Homelab.Draft.Inventory

/-!
# Allocation from drafts

A draft gives out numbers and addresses by the rules of an inventory, as far as its
fields allow.  A machine number counts as taken if the field holds a number that is
equal to it; where an address is wanted a number may stand for one.  A record that has
lost a field which is looked at fails the request.
-/

namespace Homelab

namespace Address

/-- The address of a number: of version 4 if it is small enough. -/
def ofNumber? (n : Int) : Option Address :=
  if n < 0 then none
  else if n < Nat.pow 2 32 then some ⟨.v4, n.toNat⟩
  else if n < Nat.pow 2 128 then some ⟨.v6, n.toNat⟩
  else none

/-- The address that a value stands for. -/
def ofValue? : Value → Option Address
  | .str s => addressOf? s
  | .int n => ofNumber? n
  | .bool b => ofNumber? (if b then 1 else 0)
  | _ => none

end Address

namespace Draft

/-- The member in the field of a record, and the members of that, one by one. -/
def membersOf (d : Draft) (name : String) : Except Failure (List Draft) := do
  (← d.field name).each

/-- The reservations of one kind. -/
def reservations (d : Draft) (name : String) : Except Failure (List Draft) := do
  (← d.field "reserved").membersOf name

/-- What stands for a machine number, which must be a value without parts. -/
def vmid (d : Draft) : Except Failure Scalar := do
  match (← d.field "vmid") with
  | plain (.scalar s) => return s
  | _ => throw (.wrongType "a machine number has no parts")

/-- Keys without those that name the same one as an earlier key. -/
def distinct (keys : List Scalar) : List Scalar :=
  keys.foldl (fun found s => if found.any s.sameKey then found else found ++ [s]) []

/-- What stands for the machine numbers in use. -/
def usedVmids (d : Draft) : Except Failure (List Scalar) := do
  let hosts ← (← d.membersOf "hosts").mapM vmid
  let templates ← (← d.membersOf "templates").mapM vmid
  let reserved ← (← d.reservations "vmids").mapM vmid
  return distinct (hosts ++ templates ++ reserved)

/-- The machine numbers in use in their order, if they have one: numbers only or texts
only. -/
def sortedVmids (d : Draft) : Except Failure (List Scalar) := do
  let used ← d.usedVmids
  let isText (s : Scalar) : Bool := s matches .str _
  if used.length ≤ 1 || used.all isText || used.all fun s => s.size?.isSome then
    return used.mergeSort Scalar.precedes
  else throw (.wrongType "no order between numbers and other values")

/-- A free machine number for a resource given by name. -/
def nextVmid (d : Draft) (resource : String) : Except Failure Int := do
  match Resource.named.lookup resource with
  | none => throw (.unknownResource resource)
  | some r =>
      let used ← d.usedVmids
      match lowestFree? (fun n => used.any (Scalar.sameKey (.int n))) r.first r.last with
      | some n => return n
      | none => throw (.machineNumbersTaken resource)

/-- The first of some records whose field is the given text. -/
def firstWith (name wanted : String) : List Draft → Except Failure (Option Draft)
  | [] => .ok none
  | d :: rest => do
      match ← d.field name with
      | plain (.str s) => if s = wanted then return some d else firstWith name wanted rest
      | _ => firstWith name wanted rest

/-- The network of a name. -/
def network? (d : Draft) (name : String) : Except Failure (Option Draft) := do
  firstWith "name" name (← d.membersOf "networks")

/-- The template of a name. -/
def template? (d : Draft) (name : String) : Except Failure (Option Draft) := do
  firstWith "name" name (← d.membersOf "templates")

/-- What stands for the addresses that count as taken on a network. -/
def claimed (d : Draft) (network : String) : Except Failure (List Value) := do
  let own ← match ← d.network? network with
    | some n => pure [← n.field "gateway", ← n.field "dns"]
    | none => pure []
  let interfaces ← (← d.membersOf "hosts").mapM fun h => h.membersOf "interfaces"
  let hosts ← interfaces.flatten.mapM fun i => i.field "ip"
  let reserved ← (← d.reservations "ips").mapM fun e => e.field "ip"
  return (own ++ hosts ++ reserved).map value

/-- The numbers of the addresses of one family that count as taken on a network. -/
def takenNumbers (d : Draft) (network : String) (family : Family) : Except Failure (List Nat) := do
  let addresses := (← d.claimed network).filterMap Address.ofValue?
  return (addresses.filter fun a => a.family = family).map Address.number

/-- The values that stand where an address should and are none. -/
def unreadable (d : Draft) (network : String) : List Value :=
  match d.claimed network with
  | .ok values => values.filter fun v => (Address.ofValue? v).isNone
  | .error _ => []

/-- The ends of the static range of a network. -/
def interval (n : Draft) (network : String) : Except Failure (Address × Address) := do
  let range ← n.field "static_range"
  if !range.isGiven then throw (.range network .unset)
  let first ← range.field "start"
  let last ← range.field "end"
  if !first.isGiven || !last.isGiven then throw (.range network .unset)
  match Address.ofValue? first.value, Address.ofValue? last.value with
  | none, _ => throw (.range network (.notAnAddress first.value.quoted))
  | some _, none => throw (.range network (.notAnAddress last.value.quoted))
  | some a, some b =>
      if a.family ≠ b.family then throw (.range network .mixedFamilies)
      else if b.number < a.number then throw (.range network .reversed)
      else return (a, b)

/-- The length of the subnet of a network; none if it carries no slash. -/
def subnetLength (n : Draft) : Except Failure (Option Nat) := do
  match (← n.field "subnet").value with
  | .str s =>
      match subnetLength? s with
      | .ok length => return length
      | .error reason => throw (.value reason)
  | v =>
      let isSlash (part : Value) : Bool := part.text? = some "/"
      if (← v.each).any isSlash then
        throw (.value (v.quoted ++ " does not appear to be an IPv4 or IPv6 network"))
      else return none

/-- A network given by name and the ends of its static range. -/
def intervalOf (d : Draft) (network : String) : Except Failure (Draft × Address × Address) := do
  match ← d.network? network with
  | none => throw (.networkNotFound network)
  | some n => return (n, ← n.interval network)

/-- A free address of a network given by name, as text. -/
def nextAddress (d : Draft) (network : String) : Except Failure String := do
  let (n, a, b) ← d.intervalOf network
  let taken ← d.takenNumbers network a.family
  let length ← n.subnetLength
  match lowestFree? taken.contains a.number b.number with
  | some k => return Network.addressText ⟨a.family, k⟩ length
  | none => throw (.addressesTaken network)

/-- The unreadable values, if the search for a free address comes as far as to look at
them. -/
def addressNotes (d : Draft) (network : String) : List Value :=
  match d.intervalOf network with
  | .ok _ => d.unreadable network
  | .error _ => []

/-- The reservation of a token. -/
def reservation? (d : Draft) (name token : String) : Except Failure (Option Draft) := do
  firstWith "ref_id" token (← d.reservations name)

/-- The value in a field. -/
def valueOf (d : Draft) (name : String) : Except Failure Value := do
  return (← d.field name).value

/-- A draft with the reservations of one kind set. -/
def withReservations (d : Draft) (name : String) (entries : List Draft) : Except Failure Draft := do
  let reserved ← d.field "reserved"
  return d.withField "reserved" (reserved.withField name (members entries))

/-- A draft with one more reservation. -/
def reserve (d : Draft) (name valueName token : String) (v : Value) : Except Failure Draft := do
  match ← (← d.field "reserved").field name with
  | members _ | plain (.list _) =>
      d.withReservations name ((← d.reservations name) ++
        [record [(valueName, plain v), ("ref_id", text token)] []])
  | _ => throw (noField "append")

/-- The number of a token, reserved if it is not yet. -/
def reserveVmid (d : Draft) (resource token : String) : Except Failure (Value × Draft) := do
  match ← d.reservation? "vmids" token with
  | some e => return (← e.valueOf "vmid", d)
  | none =>
      let n ← d.nextVmid resource
      return (.int n, ← d.reserve "vmids" "vmid" token (.int n))

/-- The address of a token, reserved if it is not yet. -/
def reserveIp (d : Draft) (network token : String) : Except Failure (Value × Draft) := do
  match ← d.reservation? "ips" token with
  | some e => return (← e.valueOf "ip", d)
  | none =>
      let ip ← d.nextAddress network
      if (Interface.read? ip).isSome then
        return (.str ip, ← d.reserve "ips" "ip" token (.str ip))
      else throw (.record [⟨[.key "ip"], .rule (notAnAddress .interface ip)⟩])

/-- The entry is the reservation of a token. -/
def isFor (token : String) (entry : Draft) : Bool :=
  match entry.field "ref_id" with
  | .ok (plain (.str s)) => s = token
  | _ => false

/-- The reservation of a token is taken out; its value is told, if there is one. -/
def release (d : Draft) (name valueName token : String) : Except Failure (Value × Draft) := do
  match ← d.reservation? name token with
  | none => return (.null, d)
  | some e =>
      let entries ← d.reservations name
      return (← e.valueOf valueName, ← d.withReservations name (entries.eraseP (isFor token)))

end Draft
end Homelab
