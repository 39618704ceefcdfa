import Homelab.Proofs.Inventory.WellFormed

/-!
# Inventories read back from their documents

The document of a well-formed inventory is read again as the same inventory, except
that what the records keep without knowing it is in document form: empty entries are
left out, and a number that is not finite is empty.
-/

namespace Homelab

/-! ### Document form -/

/-- The cluster section as it is read back. -/
def ClusterConfig.normal (c : ClusterConfig) : ClusterConfig :=
  { c with extra := c.extra.normal }

/-- The backend section as it is read back. -/
def StateBackend.normal (b : StateBackend) : StateBackend :=
  { b with config := b.config.map fun f => (f.1, f.2.kept), extra := b.extra.normal }

/-- The module section as it is read back. -/
def ModuleSettings.normal (m : ModuleSettings) : ModuleSettings :=
  { backend := m.backend.normal, extra := m.extra.normal }

/-- A static range as it is read back. -/
def StaticRange.normal (r : StaticRange) : StaticRange :=
  { r with extra := r.extra.normal }

/-- A network as it is read back. -/
def Network.normal (n : Network) : Network :=
  { n with staticRange := n.staticRange.map StaticRange.normal, extra := n.extra.normal }

/-- An interface as it is read back. -/
def HostInterface.normal (i : HostInterface) : HostInterface :=
  { i with extra := i.extra.normal }

/-- A machine as it is read back. -/
def Host.normal (h : Host) : Host :=
  { h with interfaces := h.interfaces.map HostInterface.normal, extra := h.extra.normal }

/-- A template as it is read back. -/
def Template.normal (t : Template) : Template :=
  { t with extra := t.extra.normal }

/-- A reservation as it is read back. -/
def Reservation.normal {α : Type} (e : Reservation α) : Reservation α :=
  { e with extra := e.extra.normal }

/-- Reservations as they are read back. -/
def Reserved.normal (r : Reserved) : Reserved :=
  { vmids := r.vmids.map Reservation.normal
    ips := r.ips.map Reservation.normal
    extra := r.extra.normal }

/-- An inventory as it is read back. -/
def Inventory.normal (inv : Inventory) : Inventory :=
  { cluster := inv.cluster.normal
    modules := inv.modules.normal
    networks := inv.networks.map Network.normal
    hosts := inv.hosts.map Host.normal
    templates := inv.templates.map Template.normal
    reserved := inv.reserved.normal
    extra := inv.extra.normal }

/-! ### Reading back -/

open Schema

theorem textWith_address
    {s : String}
    (h : IsAddress s) :
    textWith (addressRule .address) (.str s) = .ok s := by
  unfold IsAddress at h
  simp [textWith, text, addressRule, h]

theorem textWith_interface
    {s : String}
    (h : IsInterface s) :
    textWith (addressRule .interface) (.str s) = .ok s := by
  unfold IsInterface at h
  simp [textWith, text, addressRule, h]

theorem textWith_network
    {s : String}
    (h : IsInterface s) :
    textWith (addressRule .network) (.str s) = .ok s := by
  unfold IsInterface at h
  simp [textWith, text, addressRule, h]

theorem orNull_text
    (o : Option String) :
    orNull text (Value.ofText? o) = .ok o := by
  cases o <;> rfl

/-! ### Records -/

theorem ClusterConfig.layout
    {c : ClusterConfig}
    (h : c.extra.Clear fields) :
    Layout fields
      [("endpoint", .str c.endpoint), ("api_user", .str c.user), ("api_token", .ofText? c.token),
       ("node", .str c.node), ("username", .ofText? c.username), ("password", .ofText? c.password)]
      c.extra :=
  ⟨by simp, by simp [fields], by simp [fields], h⟩

theorem ClusterConfig.ofValue_toValue
    {c : ClusterConfig}
    (h : c.WellFormed) :
    ofValue c.toValue = .ok c.normal := by
  have layout := ClusterConfig.layout h.clear
  obtain ⟨token, htoken⟩ := Option.isSome_iff_exists.mp h.token
  have hfull : (Value.ofText? c.token).isNull = false := by
    rw [htoken]
    rfl
  rw [toValue, Value.ofFields_eq, ofValue, Schema.record]
  simp only [Checked.map_eq, Checked.seq_eq]
  rw [layout.required_eq "endpoint" rfl rfl, layout.required_eq "api_user" rfl rfl,
    layout.required_eq "api_token" rfl hfull, layout.required_eq "node" rfl rfl,
    layout.optional_eq "username" rfl, layout.optional_eq "password" rfl, layout.extras_eq,
    orNull_text, orNull_text, htoken]
  simp [Value.ofText?, text, normal, htoken]

theorem StateBackend.layout
    {b : StateBackend}
    (h : b.extra.Clear fields) :
    Layout fields
      [("type", .str b.kind), ("config", .object (b.config.map fun f => (f.1, f.2.kept)))] b.extra :=
  ⟨by simp, by simp [fields], by simp [fields], h⟩

theorem StateBackend.ofValue_toValue
    {b : StateBackend}
    (h : b.extra.Clear fields) :
    ofValue b.toValue = .ok b.normal := by
  have layout := StateBackend.layout h
  rw [toValue, Value.ofFields_eq, ofValue, Schema.record]
  simp only [Checked.map_eq, Checked.seq_eq]
  rw [layout.required_eq "type" rfl rfl, layout.required_eq "config" rfl rfl, layout.extras_eq,
    mapping_object]
  rfl

theorem ModuleSettings.layout
    {m : ModuleSettings}
    (h : m.extra.Clear fields) :
    Layout fields [("backend", m.backend.toValue)] m.extra :=
  ⟨by simp, by simp [fields], by simp [fields], h⟩

theorem ModuleSettings.ofValue_toValue
    {m : ModuleSettings}
    (h : m.WellFormed) :
    ofValue m.toValue = .ok m.normal := by
  have layout := ModuleSettings.layout h.clear
  rw [toValue, Value.ofFields_eq, ofValue, Schema.record]
  simp only [Checked.map_eq, Checked.seq_eq]
  rw [layout.required_eq "backend" rfl rfl, layout.extras_eq,
    StateBackend.ofValue_toValue h.backend]
  rfl

theorem StaticRange.layout
    {r : StaticRange}
    (h : r.extra.Clear fields) :
    Layout fields [("start", .ofText? r.first), ("end", .ofText? r.last)] r.extra :=
  ⟨by simp, by simp [fields], by simp [fields], h⟩

theorem StaticRange.ofValue_toValue
    {r : StaticRange}
    (h : r.WellFormed) :
    ofValue r.toValue = .ok r.normal := by
  obtain ⟨first, last, extra⟩ := r
  obtain ⟨⟨first, rfl, hfirst⟩, ⟨last, rfl, hlast⟩, hclear⟩ := h
  have layout : Layout fields
      [("start", Value.ofText? (some first)), ("end", Value.ofText? (some last))] extra :=
    StaticRange.layout hclear
  rw [toValue, Value.ofFields_eq, ofValue, Schema.record]
  simp only [Checked.map_eq, Checked.seq_eq]
  rw [layout.required_eq "start" rfl rfl, layout.required_eq "end" rfl rfl, layout.extras_eq]
  simp only [Value.ofText?, textWith_address hfirst, textWith_address hlast]
  rfl

/-- The fields of a network as they are written. -/
def Network.written (n : Network) : List (String × Value) :=
  [("name", .str n.name), ("subnet", .str n.subnet), ("gateway", .str n.gateway),
   ("dns", .str n.dns),
   ("static_range", match n.staticRange with | some r => r.toValue | none => .null),
   ("iface", .ofText? n.iface),
   ("dhcp_enabled", match n.dhcpEnabled with | some b => .bool b | none => .null),
   ("domain", .ofText? n.domain)]

theorem Network.layout
    {n : Network}
    (h : n.extra.Clear fields) :
    Layout fields n.written n.extra :=
  ⟨by simp [written], by simp [written, fields], by simp [fields], h⟩

theorem orNull_truth
    (o : Option Bool) :
    orNull truth (match o with | some b => .bool b | none => .null) = .ok o := by
  cases o <;> rfl

theorem Network.ofValue_toValue
    {n : Network}
    (h : n.WellFormed) :
    ofValue n.toValue = .ok n.normal := by
  have layout := Network.layout h.clear
  obtain ⟨range, hsome, hrange⟩ := h.staticRange
  have hread : required ["static_range"] StaticRange.ofValue
      (Value.fieldEntries n.written n.extra) = .ok range.normal := by
    rw [layout.required_eq "static_range" rfl (by rw [hsome]; rfl), hsome,
      StaticRange.ofValue_toValue hrange]
    rfl
  show Schema.record "Network" _ (.map (Value.fieldEntries n.written n.extra)) = _
  rw [Schema.record]
  simp only [Checked.map_eq, Checked.seq_eq]
  rw [hread, layout.required_eq "name" rfl rfl, layout.required_eq "subnet" rfl rfl,
    layout.required_eq "gateway" rfl rfl, layout.required_eq "dns" rfl rfl,
    layout.optional_eq "iface" rfl, layout.optional_eq "dhcp_enabled" rfl,
    layout.optional_eq "domain" rfl, layout.extras_eq, orNull_text, orNull_text, orNull_truth,
    textWith_network h.subnet, textWith_address h.gateway, textWith_address h.dns]
  simp [text, normal, hsome]

theorem HostInterface.layout
    {i : HostInterface}
    (h : i.extra.Clear fields) :
    Layout fields [("network", .str i.network), ("ip", .str i.ip)] i.extra :=
  ⟨by simp, by simp [fields], by simp [fields], h⟩

theorem HostInterface.ofValue_toValue
    {i : HostInterface}
    (h : i.WellFormed) :
    ofValue i.toValue = .ok i.normal := by
  have layout := HostInterface.layout h.clear
  rw [toValue, Value.ofFields_eq, ofValue, Schema.record]
  simp only [Checked.map_eq, Checked.seq_eq]
  rw [layout.required_eq "network" rfl rfl, layout.required_eq "ip" rfl rfl, layout.extras_eq,
    textWith_interface h.ip]
  rfl

theorem list_map
    {α : Type} {f : Value → Checked α} {write : α → Value} {read : α → α} {as : List α}
    (h : ∀ a ∈ as, f (write a) = .ok (read a)) :
    list f (.list (as.map write)) = .ok (as.map read) :=
  Checked.items_map h

theorem Host.layout
    {host : Host}
    (h : host.extra.Clear fields) :
    Layout fields
      [("name", .str host.name), ("vmid", .int host.vmid), ("type", .str host.kind.name),
       ("interfaces", .list (host.interfaces.map HostInterface.toValue))] host.extra :=
  ⟨by simp, by simp [fields], by simp [fields], h⟩

theorem Host.ofValue_toValue
    {host : Host}
    (h : host.WellFormed) :
    ofValue host.toValue = .ok host.normal := by
  have layout := Host.layout h.clear
  have hkind : choice kinds (.str host.kind.name) = .ok host.kind := by
    cases host.kind <;> rfl
  rw [toValue, Value.ofFields_eq, ofValue, Schema.record]
  simp only [Checked.map_eq, Checked.seq_eq]
  rw [layout.required_eq "name" rfl rfl, layout.required_eq "vmid" rfl rfl,
    layout.required_eq "type" rfl rfl, layout.withDefault_eq "interfaces" rfl rfl,
    layout.extras_eq, hkind,
    list_map fun i hi => HostInterface.ofValue_toValue (h.interfaces i hi)]
  rfl

theorem Template.layout
    {t : Template}
    (h : t.extra.Clear fields) :
    Layout fields [("name", .str t.name), ("version", .str t.version), ("vmid", .int t.vmid)]
      t.extra :=
  ⟨by simp, by simp [fields], by simp [fields], h⟩

theorem Template.ofValue_toValue
    {t : Template}
    (h : t.WellFormed) :
    ofValue t.toValue = .ok t.normal := by
  have layout := Template.layout h
  rw [toValue, Value.ofFields_eq, ofValue, Schema.record]
  simp only [Checked.map_eq, Checked.seq_eq]
  rw [layout.required_eq "name" rfl rfl, layout.required_eq "version" rfl rfl,
    layout.required_eq "vmid" rfl rfl, layout.extras_eq]
  rfl

theorem Reservation.layout_vmid
    {e : Reservation Int}
    (h : e.extra.Clear [["vmid"], tokenNames]) :
    Layout [["vmid"], tokenNames] [("vmid", .int e.value), ("refId", .str e.token)] e.extra :=
  ⟨by simp, by simp [tokenNames], by simp [tokenNames, List.lookup_cons, Value.isNull], h⟩

theorem Reservation.ofVmidValue_vmidValue
    {e : Reservation Int}
    (h : e.VmidWellFormed) :
    ofVmidValue (vmidValue e) = .ok e.normal := by
  have layout := layout_vmid h
  rw [vmidValue, Value.ofFields_eq, ofVmidValue, Schema.record]
  simp only [Checked.map_eq, Checked.seq_eq]
  rw [layout.required_eq "vmid" rfl rfl, layout.extras_eq, tokenNames,
    layout.required_eq "refId" rfl rfl]
  rfl

theorem Reservation.layout_ip
    {e : Reservation String}
    (h : e.extra.Clear [["ip"], tokenNames]) :
    Layout [["ip"], tokenNames] [("ip", .str e.value), ("refId", .str e.token)] e.extra :=
  ⟨by simp, by simp [tokenNames], by simp [tokenNames, List.lookup_cons, Value.isNull], h⟩

theorem Reservation.ofIpValue_ipValue
    {e : Reservation String}
    (h : e.IpWellFormed) :
    ofIpValue (ipValue e) = .ok e.normal := by
  have layout := layout_ip h.clear
  rw [ipValue, Value.ofFields_eq, ofIpValue, Schema.record]
  simp only [Checked.map_eq, Checked.seq_eq]
  rw [layout.required_eq "ip" rfl rfl, layout.extras_eq, tokenNames,
    layout.required_eq "refId" rfl rfl, textWith_interface h.ip]
  rfl

theorem Reserved.layout
    {r : Reserved}
    (h : r.extra.Clear fields) :
    Layout fields
      [("vmids", .list (r.vmids.map Reservation.vmidValue)),
       ("ips", .list (r.ips.map Reservation.ipValue))] r.extra :=
  ⟨by simp, by simp [fields], by simp [fields], h⟩

theorem Reserved.ofValue_toValue
    {r : Reserved}
    (h : r.WellFormed) :
    ofValue r.toValue = .ok r.normal := by
  have layout := Reserved.layout h.clear
  rw [toValue, Value.ofFields_eq, ofValue, Schema.record]
  simp only [Checked.map_eq, Checked.seq_eq]
  rw [layout.withDefault_eq "vmids" rfl rfl, layout.withDefault_eq "ips" rfl rfl,
    layout.extras_eq, list_map fun e he => Reservation.ofVmidValue_vmidValue (h.vmids e he),
    list_map fun e he => Reservation.ofIpValue_ipValue (h.ips e he)]
  rfl

namespace Inventory

/-- The fields of an inventory as they are written. -/
def written (inv : Inventory) : List (String × Value) :=
  [("proxmox", inv.cluster.toValue), ("terraform", inv.modules.toValue),
   ("networks", .list (inv.networks.map Network.toValue)),
   ("hosts", .list (inv.hosts.map Host.toValue)),
   ("templates", .list (inv.templates.map Template.toValue)),
   ("reserved", inv.reserved.toValue)]

theorem toValue_eq
    (inv : Inventory) :
    inv.toValue = .map (Value.fieldEntries inv.written inv.extra) := rfl

theorem layout_written
    {inv : Inventory}
    (h : inv.extra.Clear fields) :
    Layout fields inv.written inv.extra :=
  ⟨by simp [written], by simp [written, fields], by simp [fields], h⟩

/-- The fields of the document of an inventory are read back. -/
theorem ofFields_written
    {inv : Inventory}
    (h : inv.WellFormed) :
    ofFields (Value.fieldEntries inv.written inv.extra) = .ok inv.normal := by
  have layout := layout_written h.clear
  rw [ofFields]
  simp only [Checked.map_eq, Checked.seq_eq]
  rw [layout.required_eq "proxmox" rfl rfl, layout.required_eq "terraform" rfl rfl,
    layout.withDefault_eq "networks" rfl rfl, layout.withDefault_eq "hosts" rfl rfl,
    layout.withDefault_eq "templates" rfl rfl, layout.withDefault_eq "reserved" rfl rfl,
    layout.extras_eq, ClusterConfig.ofValue_toValue h.cluster,
    ModuleSettings.ofValue_toValue h.modules,
    list_map fun n hn => Network.ofValue_toValue (h.networks n hn),
    list_map fun x hx => Host.ofValue_toValue (h.hosts x hx),
    list_map fun t ht => Template.ofValue_toValue (h.templates t ht),
    Reserved.ofValue_toValue h.reserved]
  rfl

end Inventory
end Homelab
