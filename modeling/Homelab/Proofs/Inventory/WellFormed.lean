import Homelab.Proofs.Schema

/-!
# Well-formed inventories

What the schema promises about an inventory that was read, apart from the rules that
tie its parts together: the cluster has a token, every address can be read, every
network has a static range with two ends, and what a record keeps without knowing it
does not go by the name of one of its fields.
-/

namespace Homelab

/-- The text of an address. -/
def IsAddress (s : String) : Prop := (Address.read? s).isSome = true

/-- The text of an interface or a subnet. -/
def IsInterface (s : String) : Prop := (Interface.read? s).isSome = true

theorem addressRule_address
    {s : String}
    (h : addressRule .address s = none) :
    IsAddress s := by
  unfold addressRule at h
  simp only at h
  split at h
  · assumption
  · simp at h

theorem addressRule_interface
    {s : String}
    (h : addressRule .interface s = none) :
    IsInterface s := by
  unfold addressRule at h
  simp only at h
  split at h
  · assumption
  · simp at h

theorem addressRule_network
    {s : String}
    (h : addressRule .network s = none) :
    IsInterface s := by
  unfold addressRule at h
  simp only at h
  split at h
  · assumption
  · simp at h

/-! ### Records -/

/-- A cluster section with a token. -/
structure ClusterConfig.WellFormed (c : ClusterConfig) : Prop where
  token : c.token.isSome = true
  clear : c.extra.Clear fields

/-- A module section. -/
structure ModuleSettings.WellFormed (m : ModuleSettings) : Prop where
  backend : m.backend.extra.Clear StateBackend.fields
  clear : m.extra.Clear fields

/-- A static range with two ends. -/
structure StaticRange.WellFormed (r : StaticRange) : Prop where
  first : ∃ s, r.first = some s ∧ IsAddress s
  last : ∃ s, r.last = some s ∧ IsAddress s
  clear : r.extra.Clear fields

/-- A network with a static range. -/
structure Network.WellFormed (n : Network) : Prop where
  subnet : IsInterface n.subnet
  gateway : IsAddress n.gateway
  dns : IsAddress n.dns
  staticRange : ∃ r, n.staticRange = some r ∧ r.WellFormed
  clear : n.extra.Clear fields

/-- An interface with an address. -/
structure HostInterface.WellFormed (i : HostInterface) : Prop where
  ip : IsInterface i.ip
  clear : i.extra.Clear fields

/-- A machine whose interfaces have addresses. -/
structure Host.WellFormed (h : Host) : Prop where
  interfaces : ∀ i ∈ h.interfaces, i.WellFormed
  clear : h.extra.Clear fields

/-- A machine template. -/
def Template.WellFormed (t : Template) : Prop := t.extra.Clear fields

/-- A reserved machine number. -/
def Reservation.VmidWellFormed (r : Reservation Int) : Prop :=
  r.extra.Clear [["vmid"], tokenNames]

/-- A reserved address. -/
structure Reservation.IpWellFormed (r : Reservation String) : Prop where
  ip : IsInterface r.value
  clear : r.extra.Clear [["ip"], tokenNames]

/-- Reservations. -/
structure Reserved.WellFormed (r : Reserved) : Prop where
  vmids : ∀ e ∈ r.vmids, e.VmidWellFormed
  ips : ∀ e ∈ r.ips, e.IpWellFormed
  clear : r.extra.Clear fields

/-- An inventory whose records are as the schema promises. -/
structure Inventory.WellFormed (inv : Inventory) : Prop where
  cluster : inv.cluster.WellFormed
  modules : inv.modules.WellFormed
  networks : ∀ n ∈ inv.networks, n.WellFormed
  hosts : ∀ h ∈ inv.hosts, h.WellFormed
  templates : ∀ t ∈ inv.templates, t.WellFormed
  reserved : inv.reserved.WellFormed
  clear : inv.extra.Clear fields

/-! ### What is read is well formed -/

open Checked Schema

theorem all_extras
    (names : List (List String)) (es : Entries) :
    All (Extra.Clear names) (extras names es) := by
  intro extra h
  exact clear_of_extras h

theorem ClusterConfig.all_wellFormed
    (v : Value) :
    All WellFormed (ofValue v) := by
  refine all_record _ (fun es => ?_) v
  refine all_ap (all_ap (all_ap (all_ap (all_ap (all_ap (all_map ?_ (all_true _)) (all_true _))
    (all_map (P := fun _ => True) (Q := fun o => o.isSome = true) (by simp) (all_true _)))
    (all_true _)) (all_true _)) (all_true _)) (all_extras _ es)
  intro endpoint _ user _ token htoken node _ username _ password _ extra hextra
  exact ⟨htoken, hextra⟩

theorem StateBackend.all_clear
    (v : Value) :
    All (fun b => b.extra.Clear fields) (ofValue v) := by
  refine all_record _ (fun es => ?_) v
  refine all_ap (all_ap (all_map ?_ (all_true _)) (all_true _)) (all_extras _ es)
  intro kind _ config _ extra hextra
  exact hextra

theorem ModuleSettings.all_wellFormed
    (v : Value) :
    All WellFormed (ofValue v) := by
  refine all_record _ (fun es => ?_) v
  refine all_ap (all_map ?_ (all_required _ es StateBackend.all_clear)) (all_extras _ es)
  intro backend hbackend extra hextra
  exact ⟨hbackend, hextra⟩

theorem StaticRange.all_wellFormed
    (v : Value) :
    All WellFormed (ofValue v) := by
  have hend : ∀ name es, All (fun o => ∃ s, o = some s ∧ IsAddress s)
      (some <$> required [name] (textWith (addressRule .address)) es) := by
    intro name es
    refine all_map ?_ (all_required _ es (all_textWith _))
    intro s hs
    exact ⟨s, rfl, addressRule_address hs⟩
  refine all_record _ (fun es => ?_) v
  refine all_ap (all_ap (all_map ?_ (hend "start" es)) (hend "end" es)) (all_extras _ es)
  intro first hfirst last hlast extra hextra
  exact ⟨hfirst, hlast, hextra⟩

theorem Network.all_wellFormed
    (v : Value) :
    All WellFormed (ofValue v) := by
  refine all_record _ (fun es => ?_) v
  have hrange : All (fun o => ∃ r, o = some r ∧ r.WellFormed)
      (some <$> required ["static_range"] StaticRange.ofValue es) := by
    refine all_map ?_ (all_required _ es StaticRange.all_wellFormed)
    intro r hr
    exact ⟨r, rfl, hr⟩
  refine all_ap (all_ap (all_ap (all_ap (all_ap (all_ap (all_ap (all_ap
    (all_map ?_ (all_true _))
    (all_required _ es (all_textWith _))) (all_required _ es (all_textWith _)))
    (all_required _ es (all_textWith _))) hrange) (all_true _)) (all_true _)) (all_true _))
    (all_extras _ es)
  intro name _ subnet hsubnet gateway hgateway dns hdns range hrange iface _ dhcp _ domain _
    extra hextra
  exact ⟨addressRule_network hsubnet, addressRule_address hgateway, addressRule_address hdns,
    hrange, hextra⟩

theorem HostInterface.all_wellFormed
    (v : Value) :
    All WellFormed (ofValue v) := by
  refine all_record _ (fun es => ?_) v
  refine all_ap (all_ap (all_map ?_ (all_true _)) (all_required _ es (all_textWith _)))
    (all_extras _ es)
  intro network _ ip hip extra hextra
  exact ⟨addressRule_interface hip, hextra⟩

theorem Host.all_wellFormed
    (v : Value) :
    All WellFormed (ofValue v) := by
  refine all_record _ (fun es => ?_) v
  have hinterfaces := all_withDefault ["interfaces"] es (all_list HostInterface.all_wellFormed)
    (d := []) (by simp)
  refine all_ap (all_ap (all_ap (all_ap (all_map ?_ (all_true _)) (all_true _)) (all_true _))
    hinterfaces) (all_extras _ es)
  intro name _ vmid _ kind _ interfaces hinterfaces extra hextra
  exact ⟨hinterfaces, hextra⟩

theorem Template.all_wellFormed
    (v : Value) :
    All WellFormed (ofValue v) := by
  refine all_record _ (fun es => ?_) v
  refine all_ap (all_ap (all_ap (all_map ?_ (all_true _)) (all_true _)) (all_true _))
    (all_extras _ es)
  intro name _ version _ vmid _ extra hextra
  exact hextra

theorem Reservation.all_vmidWellFormed
    (v : Value) :
    All VmidWellFormed (ofVmidValue v) := by
  refine all_record _ (fun es => ?_) v
  refine all_ap (all_ap (all_map ?_ (all_true _)) (all_true _)) (all_extras _ es)
  intro vmid _ token _ extra hextra
  exact hextra

theorem Reservation.all_ipWellFormed
    (v : Value) :
    All IpWellFormed (ofIpValue v) := by
  refine all_record _ (fun es => ?_) v
  refine all_ap (all_ap (all_map ?_ (all_required _ es (all_textWith _))) (all_true _))
    (all_extras _ es)
  intro ip hip token _ extra hextra
  exact ⟨addressRule_interface hip, hextra⟩

theorem Reserved.wellFormed_empty :
    Reserved.empty.WellFormed := by
  refine ⟨?_, ?_, ?_⟩ <;> simp [Reserved.empty, Extra.Clear]

theorem Reserved.all_wellFormed
    (v : Value) :
    All WellFormed (ofValue v) := by
  refine all_record _ (fun es => ?_) v
  have hvmids := all_withDefault ["vmids"] es (all_list Reservation.all_vmidWellFormed)
    (d := []) (by simp)
  have hips := all_withDefault ["ips"] es (all_list Reservation.all_ipWellFormed)
    (d := []) (by simp)
  refine all_ap (all_ap (all_map ?_ hvmids) hips) (all_extras _ es)
  intro vmids hvmids ips hips extra hextra
  exact ⟨hvmids, hips, hextra⟩

namespace Inventory

theorem all_wellFormed
    (es : Entries) :
    All WellFormed (ofFields es) := by
  have hnetworks := all_withDefault ["networks"] es (all_list Network.all_wellFormed)
    (d := []) (by simp)
  have hhosts := all_withDefault ["hosts"] es (all_list Host.all_wellFormed)
    (d := []) (by simp)
  have htemplates := all_withDefault ["templates"] es (all_list Template.all_wellFormed)
    (d := []) (by simp)
  have hreserved := all_withDefault ["reserved"] es Reserved.all_wellFormed
    Reserved.wellFormed_empty
  refine all_ap (all_ap (all_ap (all_ap (all_ap (all_ap (all_map ?_
    (all_required _ es ClusterConfig.all_wellFormed))
    (all_required _ es ModuleSettings.all_wellFormed)) hnetworks) hhosts) htemplates) hreserved)
    (all_extras _ es)
  intro cluster hcluster modules hmodules networks hnetworks hosts hhosts templates htemplates
    reserved hreserved extra hextra
  exact ⟨hcluster, hmodules, hnetworks, hhosts, htemplates, hreserved, hextra⟩

/-- An inventory that is read has the fields of its document and breaks no rule. -/
theorem ofValue_eq_ok_iff
    {v : Value} {inv : Inventory} :
    ofValue v = .ok inv ↔ ∃ es, v = .map es ∧ ofFields es = .ok inv ∧ inv.fault? = none := by
  constructor
  · intro h
    unfold ofValue at h
    split at h
    · rename_i es
      split at h
      · simp at h
      · rename_i read hread
        split at h
        · rename_i hfault
          simp only [Except.ok.injEq] at h
          subst h
          exact ⟨es, rfl, hread, hfault⟩
        · simp at h
    · simp at h
  · rintro ⟨es, rfl, hread, hfault⟩
    simp [ofValue, hread, hfault]

theorem wellFormed_of_ofValue
    {v : Value} {inv : Inventory}
    (h : ofValue v = .ok inv) :
    inv.WellFormed := by
  obtain ⟨es, rfl, hread, -⟩ := ofValue_eq_ok_iff.mp h
  exact all_wellFormed es inv hread

end Inventory
end Homelab
