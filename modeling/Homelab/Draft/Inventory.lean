import Homelab.Draft

/-!
# Inventories as drafts

Every inventory is a draft.  A draft is an inventory as long as each of its fields
holds a value of the kind that the field is for.
-/

namespace Homelab

namespace Draft

/-- A text as a part. -/
def text (s : String) : Draft := plain (.str s)

/-- An optional text as a part. -/
def text? (s : Option String) : Draft := plain (.ofText? s)

/-- The text in a field. -/
def textIn? (name : String) (fields : List (String × Draft)) : Option String :=
  match fields.lookup name with
  | some (plain (.str s)) => some s
  | _ => none

/-- The text in a field that may be empty. -/
def optionalTextIn? (name : String) (fields : List (String × Draft)) : Option (Option String) :=
  match fields.lookup name with
  | some (plain .null) => some none
  | some (plain (.str s)) => some (some s)
  | _ => none

/-- The integer in a field. -/
def intIn? (name : String) (fields : List (String × Draft)) : Option Int :=
  match fields.lookup name with
  | some (plain (.int n)) => some n
  | _ => none

/-- The list in a field. -/
def listIn? {α : Type} (name : String) (f : Draft → Option α) (fields : List (String × Draft)) :
    Option (List α) :=
  match fields.lookup name with
  | some (members items) => items.mapM f
  | some (plain (.list [])) => some []
  | _ => none

/-- The record in a field. -/
def recordIn? {α : Type} (name : String) (f : Draft → Option α) (fields : List (String × Draft)) :
    Option α :=
  (fields.lookup name).bind f

end Draft

namespace ClusterConfig

/-- The cluster section as a draft. -/
def toDraft (c : ClusterConfig) : Draft :=
  .record
    [("endpoint", .text c.endpoint), ("api_user", .text c.user), ("api_token", .text? c.token),
     ("node", .text c.node), ("username", .text? c.username), ("password", .text? c.password)]
    c.extra

/-- The cluster section of a draft. -/
def ofDraft? : Draft → Option ClusterConfig
  | .record fs extra => do
      return ⟨← Draft.textIn? "endpoint" fs, ← Draft.textIn? "api_user" fs,
        ← Draft.optionalTextIn? "api_token" fs, ← Draft.textIn? "node" fs,
        ← Draft.optionalTextIn? "username" fs, ← Draft.optionalTextIn? "password" fs, extra⟩
  | _ => none

end ClusterConfig

namespace StateBackend

/-- The backend section as a draft. -/
def toDraft (b : StateBackend) : Draft :=
  .record [("type", .text b.kind), ("config", .plain (.object b.config))] b.extra

/-- The backend section of a draft. -/
def ofDraft? : Draft → Option StateBackend
  | .record fs extra => do
      let config ← match fs.lookup "config" with
        | some (.plain (.map entries)) => entries.mapM fun e => match e.1 with
            | .str key => some (key, e.2)
            | _ => none
        | _ => none
      return ⟨← Draft.textIn? "type" fs, config, extra⟩
  | _ => none

end StateBackend

namespace ModuleSettings

/-- The module section as a draft. -/
def toDraft (m : ModuleSettings) : Draft := .record [("backend", m.backend.toDraft)] m.extra

/-- The module section of a draft. -/
def ofDraft? : Draft → Option ModuleSettings
  | .record fs extra => do
      return ⟨← Draft.recordIn? "backend" StateBackend.ofDraft? fs, extra⟩
  | _ => none

end ModuleSettings

namespace StaticRange

/-- A static range as a draft. -/
def toDraft (r : StaticRange) : Draft :=
  .record [("start", .text? r.first), ("end", .text? r.last)] r.extra

/-- A static range of a draft. -/
def ofDraft? : Draft → Option StaticRange
  | .record fs extra => do
      return ⟨← Draft.optionalTextIn? "start" fs, ← Draft.optionalTextIn? "end" fs, extra⟩
  | _ => none

end StaticRange

namespace Network

/-- A network as a draft. -/
def toDraft (n : Network) : Draft :=
  .record
    [("name", .text n.name), ("subnet", .text n.subnet), ("gateway", .text n.gateway),
     ("dns", .text n.dns),
     ("static_range", match n.staticRange with | some r => r.toDraft | none => .plain .null),
     ("iface", .text? n.iface),
     ("dhcp_enabled", .plain (match n.dhcpEnabled with | some b => .bool b | none => .null)),
     ("domain", .text? n.domain)]
    n.extra

/-- A network of a draft. -/
def ofDraft? : Draft → Option Network
  | .record fs extra => do
      let range ← match fs.lookup "static_range" with
        | some (.plain .null) => some none
        | some d => (StaticRange.ofDraft? d).map some
        | none => none
      let dhcp ← match fs.lookup "dhcp_enabled" with
        | some (.plain .null) => some none
        | some (.plain (.bool b)) => some (some b)
        | _ => none
      return ⟨← Draft.textIn? "name" fs, ← Draft.textIn? "subnet" fs, ← Draft.textIn? "gateway" fs,
        ← Draft.textIn? "dns" fs, range, ← Draft.optionalTextIn? "iface" fs, dhcp,
        ← Draft.optionalTextIn? "domain" fs, extra⟩
  | _ => none

end Network

namespace HostInterface

/-- An interface as a draft. -/
def toDraft (i : HostInterface) : Draft :=
  .record [("network", .text i.network), ("ip", .text i.ip)] i.extra

/-- An interface of a draft. -/
def ofDraft? : Draft → Option HostInterface
  | .record fs extra => do
      return ⟨← Draft.textIn? "network" fs, ← Draft.textIn? "ip" fs, extra⟩
  | _ => none

end HostInterface

namespace Host

/-- A machine as a draft. -/
def toDraft (h : Host) : Draft :=
  .record
    [("name", .text h.name), ("vmid", .plain (.int h.vmid)), ("type", .text h.kind.name),
     ("interfaces", .members (h.interfaces.map HostInterface.toDraft))]
    h.extra

/-- A machine of a draft. -/
def ofDraft? : Draft → Option Host
  | .record fs extra => do
      return ⟨← Draft.textIn? "name" fs, ← Draft.intIn? "vmid" fs,
        ← (Draft.textIn? "type" fs).bind (List.lookup · Host.kinds),
        ← Draft.listIn? "interfaces" HostInterface.ofDraft? fs, extra⟩
  | _ => none

end Host

namespace Template

/-- A template as a draft. -/
def toDraft (t : Template) : Draft :=
  .record [("name", .text t.name), ("version", .text t.version), ("vmid", .plain (.int t.vmid))]
    t.extra

/-- A template of a draft. -/
def ofDraft? : Draft → Option Template
  | .record fs extra => do
      return ⟨← Draft.textIn? "name" fs, ← Draft.textIn? "version" fs, ← Draft.intIn? "vmid" fs,
        extra⟩
  | _ => none

end Template

namespace Reservation

/-- A reservation as a draft, its value under a name. -/
def toDraft {α : Type} (valueName : String) (plain : α → Value) (r : Reservation α) : Draft :=
  .record [(valueName, .plain (plain r.value)), ("ref_id", .text r.token)] r.extra

/-- A reservation of a draft.  An extra entry that goes by the name of the token in
documents would hide the token there. -/
def ofDraft? {α : Type} (value? : List (String × Draft) → Option α) :
    Draft → Option (Reservation α)
  | .record fs extra =>
      if (extra.lookup (Draft.documentName "ref_id")).isSome then none
      else do return ⟨← value? fs, ← Draft.textIn? "ref_id" fs, extra⟩
  | _ => none

end Reservation

namespace Reserved

/-- The reservations as a draft. -/
def toDraft (r : Reserved) : Draft :=
  .record
    [("vmids", .members (r.vmids.map (Reservation.toDraft "vmid" .int))),
     ("ips", .members (r.ips.map (Reservation.toDraft "ip" .str)))]
    r.extra

/-- The reservations of a draft. -/
def ofDraft? : Draft → Option Reserved
  | .record fs extra => do
      return ⟨← Draft.listIn? "vmids" (Reservation.ofDraft? (Draft.intIn? "vmid")) fs,
        ← Draft.listIn? "ips" (Reservation.ofDraft? (Draft.textIn? "ip")) fs, extra⟩
  | _ => none

end Reserved

namespace Inventory

/-- An inventory as a draft. -/
def toDraft (inv : Inventory) : Draft :=
  .record
    [("proxmox", inv.cluster.toDraft), ("terraform", inv.modules.toDraft),
     ("networks", .members (inv.networks.map Network.toDraft)),
     ("hosts", .members (inv.hosts.map Host.toDraft)),
     ("templates", .members (inv.templates.map Template.toDraft)),
     ("reserved", inv.reserved.toDraft)]
    inv.extra

/-- The inventory that a draft is. -/
def ofDraft? : Draft → Option Inventory
  | .record fs extra => do
      return ⟨← Draft.recordIn? "proxmox" ClusterConfig.ofDraft? fs,
        ← Draft.recordIn? "terraform" ModuleSettings.ofDraft? fs,
        ← Draft.listIn? "networks" Network.ofDraft? fs, ← Draft.listIn? "hosts" Host.ofDraft? fs,
        ← Draft.listIn? "templates" Template.ofDraft? fs,
        ← Draft.recordIn? "reserved" Reserved.ofDraft? fs, extra⟩
  | _ => none

/-- An inventory with the field at a place set, as a draft. -/
def edit (inv : Inventory) (v : Value) (place : List PlaceStep) : Except Failure Draft :=
  inv.toDraft.edit v place

end Inventory
end Homelab
