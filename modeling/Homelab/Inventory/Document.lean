import Homelab.Failure
import Homelab.Inventory.Invariant

/-!
# Inventory documents

An inventory document is a JSON object.  Reading one checks every field, and, when
all fields are right, the rules that tie them together.  Writing one gives the
fields in their fixed order and then the entries that were kept; empty optional
fields are left out.  A number that is not finite has no place in the document and
is written as empty.

What a record keeps without knowing it may be nested, but not without end: an
inventory with a value of more levels than can be written has no document.
-/

namespace Homelab

/-- The rule for the text of an address, an interface or a subnet. -/
def addressRule (kind : AddressKind) (s : String) : Option String :=
  match kind with
  | .address => if (Address.read? s).isSome then none else some (notAnAddress kind s)
  | _ => if (Interface.read? s).isSome then none else some (notAnAddress kind s)

namespace Value

mutual

/-- The document form of a value that is kept. -/
def kept : Value → Value
  | .scalar (.float x) => if x.isFinite then .float x else .null
  | .scalar (.bytes data) => .str ((Text.ofBytes? data).getD "")
  | .scalar s => .scalar s
  | .list items => .list (keptItems items)
  | .map entries => .map (keptEntries entries)
  | .set members => .list (members.map .scalar)

/-- The members of a list. -/
def keptItems : List Value → List Value
  | [] => []
  | v :: rest => kept v :: keptItems rest

/-- The entries of a mapping. -/
def keptEntries : List (Scalar × Value) → List (Scalar × Value)
  | [] => []
  | (k, v) :: rest => (k, kept v) :: keptEntries rest

end

/-- An optional text, empty if there is none. -/
def ofText? : Option String → Value
  | some s => .str s
  | none => .null

/-- The document of a record: its fields and its extra entries, without those that
are empty. -/
def ofFields (fields : List (String × Value)) (extra : Extra) : Value :=
  object (fields.filter (fun f => !f.2.isNull) ++
    (extra.filter fun f => !f.2.isNull).map fun f => (f.1, f.2.kept))

end Value

namespace ClusterConfig

/-- The names of the fields. -/
def fields : List (List String) :=
  [["endpoint"], ["api_user"], ["api_token"], ["node"], ["username"], ["password"]]

/-- The cluster section of a document. -/
def ofValue : Value → Checked ClusterConfig :=
  Schema.record "ProxmoxConfig" fun es =>
    ClusterConfig.mk
      <$> Schema.required ["endpoint"] Schema.text es
      <*> Schema.required ["api_user"] Schema.text es
      <*> (some <$> Schema.required ["api_token"] Schema.text es)
      <*> Schema.required ["node"] Schema.text es
      <*> Schema.optional ["username"] Schema.text es
      <*> Schema.optional ["password"] Schema.text es
      <*> Schema.extras fields es

/-- The document of the cluster section. -/
def toValue (c : ClusterConfig) : Value :=
  .ofFields
    [("endpoint", .str c.endpoint), ("api_user", .str c.user), ("api_token", .ofText? c.token),
     ("node", .str c.node), ("username", .ofText? c.username), ("password", .ofText? c.password)]
    c.extra

end ClusterConfig

namespace StateBackend

/-- The names of the fields. -/
def fields : List (List String) := [["type"], ["config"]]

/-- The backend section of a document. -/
def ofValue : Value → Checked StateBackend :=
  Schema.record "TerraformBackend" fun es =>
    StateBackend.mk
      <$> Schema.required ["type"] Schema.text es
      <*> Schema.required ["config"] (Schema.mapping Schema.any) es
      <*> Schema.extras fields es

/-- The document of the backend section. -/
def toValue (b : StateBackend) : Value :=
  .ofFields
    [("type", .str b.kind), ("config", .object (b.config.map fun f => (f.1, f.2.kept)))] b.extra

end StateBackend

namespace ModuleSettings

/-- The names of the fields. -/
def fields : List (List String) := [["backend"]]

/-- The module section of a document. -/
def ofValue : Value → Checked ModuleSettings :=
  Schema.record "TerraformSettings" fun es =>
    ModuleSettings.mk
      <$> Schema.required ["backend"] StateBackend.ofValue es
      <*> Schema.extras fields es

/-- The document of the module section. -/
def toValue (m : ModuleSettings) : Value :=
  .ofFields [("backend", m.backend.toValue)] m.extra

end ModuleSettings

namespace StaticRange

/-- The names of the fields. -/
def fields : List (List String) := [["start"], ["end"]]

/-- A static range of a document. -/
def ofValue : Value → Checked StaticRange :=
  Schema.record "StaticRange" fun es =>
    StaticRange.mk
      <$> (some <$> Schema.required ["start"] (Schema.textWith (addressRule .address)) es)
      <*> (some <$> Schema.required ["end"] (Schema.textWith (addressRule .address)) es)
      <*> Schema.extras fields es

/-- The document of a static range. -/
def toValue (r : StaticRange) : Value :=
  .ofFields [("start", .ofText? r.first), ("end", .ofText? r.last)] r.extra

end StaticRange

namespace Network

/-- The names of the fields. -/
def fields : List (List String) :=
  [["name"], ["subnet"], ["gateway"], ["dns"], ["static_range"], ["iface"], ["dhcp_enabled"],
   ["domain"]]

/-- A network of a document. -/
def ofValue : Value → Checked Network :=
  Schema.record "Network" fun es =>
    Network.mk
      <$> Schema.required ["name"] Schema.text es
      <*> Schema.required ["subnet"] (Schema.textWith (addressRule .network)) es
      <*> Schema.required ["gateway"] (Schema.textWith (addressRule .address)) es
      <*> Schema.required ["dns"] (Schema.textWith (addressRule .address)) es
      <*> (some <$> Schema.required ["static_range"] StaticRange.ofValue es)
      <*> Schema.optional ["iface"] Schema.text es
      <*> Schema.optional ["dhcp_enabled"] Schema.truth es
      <*> Schema.optional ["domain"] Schema.text es
      <*> Schema.extras fields es

/-- The document of a network. -/
def toValue (n : Network) : Value :=
  .ofFields
    [("name", .str n.name), ("subnet", .str n.subnet), ("gateway", .str n.gateway),
     ("dns", .str n.dns),
     ("static_range", match n.staticRange with | some r => r.toValue | none => .null),
     ("iface", .ofText? n.iface),
     ("dhcp_enabled", match n.dhcpEnabled with | some b => .bool b | none => .null),
     ("domain", .ofText? n.domain)]
    n.extra

end Network

namespace HostInterface

/-- The names of the fields. -/
def fields : List (List String) := [["network"], ["ip"]]

/-- An interface of a machine of a document. -/
def ofValue : Value → Checked HostInterface :=
  Schema.record "HostInterface" fun es =>
    HostInterface.mk
      <$> Schema.required ["network"] Schema.text es
      <*> Schema.required ["ip"] (Schema.textWith (addressRule .interface)) es
      <*> Schema.extras fields es

/-- The document of an interface. -/
def toValue (i : HostInterface) : Value :=
  .ofFields [("network", .str i.network), ("ip", .str i.ip)] i.extra

end HostInterface

namespace Host

/-- The names of the fields. -/
def fields : List (List String) := [["name"], ["vmid"], ["type"], ["interfaces"]]

/-- The kinds of machines by name. -/
def kinds : List (String × HostKind) :=
  [("baremetal", .baremetal), ("vm", .vm), ("lxc", .lxc)]

/-- A machine of a document. -/
def ofValue : Value → Checked Host :=
  Schema.record "Host" fun es =>
    Host.mk
      <$> Schema.required ["name"] Schema.text es
      <*> Schema.required ["vmid"] Schema.integer es
      <*> Schema.required ["type"] (Schema.choice kinds) es
      <*> Schema.withDefault ["interfaces"] (Schema.list HostInterface.ofValue) [] es
      <*> Schema.extras fields es

/-- The document of a machine. -/
def toValue (h : Host) : Value :=
  .ofFields
    [("name", .str h.name), ("vmid", .int h.vmid), ("type", .str h.kind.name),
     ("interfaces", .list (h.interfaces.map HostInterface.toValue))]
    h.extra

end Host

namespace Template

/-- The names of the fields. -/
def fields : List (List String) := [["name"], ["version"], ["vmid"]]

/-- A template of a document. -/
def ofValue : Value → Checked Template :=
  Schema.record "Template" fun es =>
    Template.mk
      <$> Schema.required ["name"] Schema.text es
      <*> Schema.required ["version"] Schema.text es
      <*> Schema.required ["vmid"] Schema.integer es
      <*> Schema.extras fields es

/-- The document of a template. -/
def toValue (t : Template) : Value :=
  .ofFields [("name", .str t.name), ("version", .str t.version), ("vmid", .int t.vmid)] t.extra

end Template

namespace Reservation

/-- The names under which a document gives the token of a reservation. -/
def tokenNames : List String := ["refId", "ref_id"]

/-- A reserved machine number of a document. -/
def ofVmidValue : Value → Checked (Reservation Int) :=
  Schema.record "VmidReservation" fun es =>
    Reservation.mk
      <$> Schema.required ["vmid"] Schema.integer es
      <*> Schema.required tokenNames Schema.text es
      <*> Schema.extras [["vmid"], tokenNames] es

/-- A reserved address of a document. -/
def ofIpValue : Value → Checked (Reservation String) :=
  Schema.record "IpReservation" fun es =>
    Reservation.mk
      <$> Schema.required ["ip"] (Schema.textWith (addressRule .interface)) es
      <*> Schema.required tokenNames Schema.text es
      <*> Schema.extras [["ip"], tokenNames] es

/-- The document of a reserved machine number. -/
def vmidValue (r : Reservation Int) : Value :=
  .ofFields [("vmid", .int r.value), ("refId", .str r.token)] r.extra

/-- The document of a reserved address. -/
def ipValue (r : Reservation String) : Value :=
  .ofFields [("ip", .str r.value), ("refId", .str r.token)] r.extra

end Reservation

namespace Reserved

/-- The names of the fields. -/
def fields : List (List String) := [["vmids"], ["ips"]]

/-- The reservations of a document. -/
def ofValue : Value → Checked Reserved :=
  Schema.record "Reserved" fun es =>
    Reserved.mk
      <$> Schema.withDefault ["vmids"] (Schema.list Reservation.ofVmidValue) [] es
      <*> Schema.withDefault ["ips"] (Schema.list Reservation.ofIpValue) [] es
      <*> Schema.extras fields es

/-- The document of the reservations. -/
def toValue (r : Reserved) : Value :=
  .ofFields
    [("vmids", .list (r.vmids.map Reservation.vmidValue)),
     ("ips", .list (r.ips.map Reservation.ipValue))]
    r.extra

end Reserved

namespace Inventory

/-- The names of the fields. -/
def fields : List (List String) :=
  [["proxmox"], ["terraform"], ["networks"], ["hosts"], ["templates"], ["reserved"]]

/-- The fields of a document, before the rules that tie them together. -/
def ofFields (es : Entries) : Checked Inventory :=
  Inventory.mk
    <$> Schema.required ["proxmox"] ClusterConfig.ofValue es
    <*> Schema.required ["terraform"] ModuleSettings.ofValue es
    <*> Schema.withDefault ["networks"] (Schema.list Network.ofValue) [] es
    <*> Schema.withDefault ["hosts"] (Schema.list Host.ofValue) [] es
    <*> Schema.withDefault ["templates"] (Schema.list Template.ofValue) [] es
    <*> Schema.withDefault ["reserved"] Reserved.ofValue Reserved.empty es
    <*> Schema.extras fields es

/-- The inventory of a document. -/
def ofValue : Value → Except Failure Inventory
  | .map es =>
      match ofFields es with
      | .bad issues => .error (.inventoryInvalid issues)
      | .ok inv =>
          match inv.fault? with
          | none => .ok inv
          | some fault => .error (.inventoryInvalid [⟨[], .rule fault.message⟩])
  | _ => .error .inventoryNotObject

/-- The document of an inventory. -/
def toValue (inv : Inventory) : Value :=
  .ofFields
    [("proxmox", inv.cluster.toValue), ("terraform", inv.modules.toValue),
     ("networks", .list (inv.networks.map Network.toValue)),
     ("hosts", .list (inv.hosts.map Host.toValue)),
     ("templates", .list (inv.templates.map Template.toValue)),
     ("reserved", inv.reserved.toValue)]
    inv.extra

/-- Everything that the records of an inventory keep without knowing it. -/
def extras (inv : Inventory) : List Extra :=
  [inv.extra, inv.cluster.extra, inv.modules.extra, inv.modules.backend.extra,
   inv.modules.backend.config, inv.reserved.extra] ++
    inv.networks.map Network.extra ++ inv.networks.filterMap (·.staticRange.map StaticRange.extra) ++
    inv.hosts.map Host.extra ++ inv.hosts.flatMap (·.interfaces.map HostInterface.extra) ++
    inv.templates.map Template.extra ++ inv.reserved.vmids.map Reservation.extra ++
    inv.reserved.ips.map Reservation.extra

/-- The most levels of a value that a document can hold. -/
def levelLimit : Nat := 255

/-- The inventory can be written: nothing that it keeps is nested too deeply. -/
def isWritable (inv : Inventory) : Bool :=
  inv.extras.all fun extra => extra.all fun f => f.2.levels ≤ levelLimit

/-- The failure of an inventory that cannot be written. -/
def tooManyLevels : Failure := .value "Maximum serialization depth exceeded"

/-- The document of an inventory that can be written. -/
def document (inv : Inventory) : Except Failure Value :=
  if inv.isWritable then .ok inv.toValue else .error tooManyLevels

end Inventory
end Homelab
