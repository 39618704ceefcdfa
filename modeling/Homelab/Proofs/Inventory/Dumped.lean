import Homelab.Proofs.Inventory.Kept
import Homelab.Proofs.Json.Shaped

/-!
# Documents of inventories in memory

An inventory in memory need not keep to the schema: its addresses may be no addresses, its
numbers may be out of range, and what its records keep may have no JSON form.  All that is asked
of it is that what a record keeps goes by different names, none of them that of a field, and that
no mapping has a key twice.  Its document, if there is one, is then nested no deeper than any
inventory, so that it can stand in a JSON text as soon as it was written.
-/

namespace Homelab

/-! ### What a record keeps -/

/-- Kept entries that go by different names, none of them that of a field, with mappings only so
deep. -/
structure Extra.Shaped (depth : Nat) (names : List (List String)) (extra : Extra) : Prop where
  clear : extra.Clear names
  nodup : (extra.map Prod.fst).Nodup
  values : ∀ f ∈ extra, f.2.Shaped depth

namespace Extra

variable {depth d : Nat} {names : List (List String)} {extra : Extra}

theorem Fits.shaped
    (h : extra.Fits depth)
    (hclear : extra.Clear names) :
    extra.Shaped depth names :=
  ⟨hclear, h.nodup, fun f hf => (h.values f hf).shaped⟩

theorem Shaped.mono
    (h : extra.Shaped depth names)
    (hle : depth ≤ d) :
    extra.Shaped d names :=
  ⟨h.clear, h.nodup, fun f hf => (h.values f hf).mono hle⟩

theorem Shaped.of_isShallow
    (h : extra.Shaped depth names)
    (hshallow : extra.IsShallow) :
    extra.Shaped Inventory.levelLimit names :=
  ⟨h.clear, h.nodup, fun f hf => (h.values f hf).of_levels (hshallow f hf)⟩

end Extra

/-! ### Documents of records -/

/-- The document of a record is one level deeper than its fields and what it keeps. -/
theorem Schema.Layout.shaped
    {names : List (List String)} {fields : List (String × Value)} {extra : Extra} {depth : Nat}
    (layout : Layout names fields extra)
    (hfields : ∀ f ∈ fields, f.2.Shaped depth)
    (hextra : extra.Shaped depth names) :
    (Value.ofFields fields extra).Shaped (depth + 1) := by
  rw [Value.ofFields_eq]
  refine .map (layout.keyed hextra.nodup) fun e he => ?_
  obtain ⟨f, hf, rfl⟩ := List.mem_map.mp he
  rcases List.mem_append.mp hf with hf | hf
  · exact hfields f (List.mem_filter.mp hf).1
  · obtain ⟨g, hg, rfl⟩ := List.mem_map.mp hf
    exact (hextra.values g (List.mem_filter.mp hg).1).kept

theorem Value.shaped_list_map
    {α : Type} {write : α → Value} {as : List α} {depth : Nat}
    (h : ∀ a ∈ as, (write a).Shaped depth) :
    (Value.list (as.map write)).Shaped (depth + 1) := by
  refine .list fun v hv => ?_
  obtain ⟨a, ha, rfl⟩ := List.mem_map.mp hv
  exact h a ha

section Records

open Value

variable {depth : Nat}

theorem ClusterConfig.shaped_toValue
    {c : ClusterConfig}
    (h : c.extra.Shaped depth fields) :
    c.toValue.Shaped (depth + 1) := by
  refine (ClusterConfig.layout h.clear).shaped ?_ h
  simp only [List.forall_mem_cons]
  exact ⟨shaped_str _ _, shaped_str _ _, shaped_ofText? _ _, shaped_str _ _, shaped_ofText? _ _,
    shaped_ofText? _ _, by simp⟩

theorem StateBackend.shaped_toValue
    {b : StateBackend}
    (h : b.extra.Shaped depth fields)
    (hconfig : Extra.Shaped depth [] b.config) :
    b.toValue.Shaped (depth + 2) := by
  refine (StateBackend.layout h.clear).shaped ?_ (h.mono (Nat.le_succ depth))
  simp only [List.forall_mem_cons]
  have hkeys : (b.config.map fun f => (f.1, f.2.kept)).map Prod.fst = b.config.map Prod.fst := by
    simp
  refine ⟨shaped_str _ _, .map (Entries.keyed_map_iff.mpr (hkeys ▸ hconfig.nodup)) ?_, by simp⟩
  intro e he
  obtain ⟨f, hf, rfl⟩ := List.mem_map.mp he
  obtain ⟨g, hg, rfl⟩ := List.mem_map.mp hf
  exact (hconfig.values g hg).kept

theorem ModuleSettings.shaped_toValue
    {m : ModuleSettings}
    (h : m.extra.Shaped depth fields)
    (hbackend : m.backend.extra.Shaped depth StateBackend.fields)
    (hconfig : Extra.Shaped depth [] m.backend.config) :
    m.toValue.Shaped (depth + 3) := by
  refine (ModuleSettings.layout h.clear).shaped ?_ (h.mono (Nat.le_add_right depth 2))
  simp only [List.forall_mem_cons]
  exact ⟨StateBackend.shaped_toValue hbackend hconfig, by simp⟩

theorem StaticRange.shaped_toValue
    {r : StaticRange}
    (h : r.extra.Shaped depth fields) :
    r.toValue.Shaped (depth + 1) := by
  refine (StaticRange.layout h.clear).shaped ?_ h
  simp only [List.forall_mem_cons]
  exact ⟨shaped_ofText? _ _, shaped_ofText? _ _, by simp⟩

theorem Network.shaped_toValue
    {n : Network}
    (h : n.extra.Shaped depth fields)
    (hrange : ∀ r, n.staticRange = some r → r.extra.Shaped depth StaticRange.fields) :
    n.toValue.Shaped (depth + 2) := by
  refine (Network.layout h.clear).shaped ?_ (h.mono (Nat.le_succ depth))
  simp only [written, List.forall_mem_cons]
  refine ⟨shaped_str _ _, shaped_str _ _, shaped_str _ _, shaped_str _ _, ?_, shaped_ofText? _ _, ?_,
    shaped_ofText? _ _, by simp⟩
  · cases hr : n.staticRange with
    | none => exact shaped_null _
    | some r => exact StaticRange.shaped_toValue (hrange r hr)
  · cases n.dhcpEnabled with
    | none => exact shaped_null _
    | some b => exact shaped_bool _ b

theorem HostInterface.shaped_toValue
    {i : HostInterface}
    (h : i.extra.Shaped depth fields) :
    i.toValue.Shaped (depth + 1) := by
  refine (HostInterface.layout h.clear).shaped ?_ h
  simp only [List.forall_mem_cons]
  exact ⟨shaped_str _ _, shaped_str _ _, by simp⟩

theorem Host.shaped_toValue
    {host : Host}
    (h : host.extra.Shaped depth fields)
    (hinterfaces : ∀ i ∈ host.interfaces, i.extra.Shaped depth HostInterface.fields) :
    host.toValue.Shaped (depth + 3) := by
  refine (Host.layout h.clear).shaped ?_ (h.mono (Nat.le_add_right depth 2))
  simp only [List.forall_mem_cons]
  exact ⟨shaped_str _ _, shaped_int _ _, shaped_str _ _,
    shaped_list_map fun i hi => HostInterface.shaped_toValue (hinterfaces i hi), by simp⟩

theorem Template.shaped_toValue
    {t : Template}
    (h : t.extra.Shaped depth fields) :
    t.toValue.Shaped (depth + 1) := by
  refine (Template.layout h.clear).shaped ?_ h
  simp only [List.forall_mem_cons]
  exact ⟨shaped_str _ _, shaped_str _ _, shaped_int _ _, by simp⟩

theorem Reservation.shaped_vmidValue
    {e : Reservation Int}
    (h : e.extra.Shaped depth [["vmid"], tokenNames]) :
    (vmidValue e).Shaped (depth + 1) := by
  refine (layout_vmid h.clear).shaped ?_ h
  simp only [List.forall_mem_cons]
  exact ⟨shaped_int _ _, shaped_str _ _, by simp⟩

theorem Reservation.shaped_ipValue
    {e : Reservation String}
    (h : e.extra.Shaped depth [["ip"], tokenNames]) :
    (ipValue e).Shaped (depth + 1) := by
  refine (layout_ip h.clear).shaped ?_ h
  simp only [List.forall_mem_cons]
  exact ⟨shaped_str _ _, shaped_str _ _, by simp⟩

theorem Reserved.shaped_toValue
    {r : Reserved}
    (h : r.extra.Shaped depth fields)
    (hvmids : ∀ e ∈ r.vmids, e.extra.Shaped depth [["vmid"], Reservation.tokenNames])
    (hips : ∀ e ∈ r.ips, e.extra.Shaped depth [["ip"], Reservation.tokenNames]) :
    r.toValue.Shaped (depth + 3) := by
  refine (Reserved.layout h.clear).shaped ?_ (h.mono (Nat.le_add_right depth 2))
  simp only [List.forall_mem_cons]
  exact ⟨shaped_list_map fun e he => Reservation.shaped_vmidValue (hvmids e he),
    shaped_list_map fun e he => Reservation.shaped_ipValue (hips e he), by simp⟩

end Records

/-! ### Inventories -/

namespace Inventory

/-- What is so for all that the records of an inventory keep without knowing it, each with the
names that its fields go by. -/
structure AllKept (P : List (List String) → Extra → Prop) (inv : Inventory) : Prop where
  cluster : P ClusterConfig.fields inv.cluster.extra
  modules : P ModuleSettings.fields inv.modules.extra
  backend : P StateBackend.fields inv.modules.backend.extra
  config : P [] inv.modules.backend.config
  networks : ∀ n ∈ inv.networks, P Network.fields n.extra
  ranges : ∀ n ∈ inv.networks, ∀ r, n.staticRange = some r → P StaticRange.fields r.extra
  hosts : ∀ x ∈ inv.hosts, P Host.fields x.extra
  interfaces : ∀ x ∈ inv.hosts, ∀ i ∈ x.interfaces, P HostInterface.fields i.extra
  templates : ∀ t ∈ inv.templates, P Template.fields t.extra
  reserved : P Reserved.fields inv.reserved.extra
  vmids : ∀ e ∈ inv.reserved.vmids, P [["vmid"], Reservation.tokenNames] e.extra
  ips : ∀ e ∈ inv.reserved.ips, P [["ip"], Reservation.tokenNames] e.extra
  extra : P fields inv.extra

/-- An inventory as it can be in memory: what a record keeps goes by different names, none of
them that of a field, and mappings in it have different text keys. -/
def Shaped (inv : Inventory) : Prop :=
  inv.AllKept fun names extra => ∃ depth, extra.Shaped depth names

variable {inv : Inventory}

theorem mem_extras_iff
    {extra : Extra} :
    extra ∈ inv.extras ↔
      extra ∈ [inv.extra, inv.cluster.extra, inv.modules.extra, inv.modules.backend.extra,
          inv.modules.backend.config, inv.reserved.extra] ∨
        (∃ n ∈ inv.networks, n.extra = extra) ∨
        (∃ n ∈ inv.networks, ∃ r, n.staticRange = some r ∧ r.extra = extra) ∨
        (∃ x ∈ inv.hosts, x.extra = extra) ∨
        (∃ x ∈ inv.hosts, ∃ i ∈ x.interfaces, i.extra = extra) ∨
        (∃ t ∈ inv.templates, t.extra = extra) ∨
        (∃ e ∈ inv.reserved.vmids, e.extra = extra) ∨ ∃ e ∈ inv.reserved.ips, e.extra = extra := by
  simp only [extras, List.mem_append, List.mem_map, List.mem_filterMap, List.mem_flatMap,
    Option.map_eq_some_iff, or_assoc]

theorem AllKept.imp
    {P Q : List (List String) → Extra → Prop}
    (h : inv.AllKept P)
    (hPQ : ∀ names extra, extra ∈ inv.extras → P names extra → Q names extra) :
    inv.AllKept Q := by
  simp only [mem_extras_iff] at hPQ
  exact {
    cluster := hPQ _ _ (.inl (by simp)) h.cluster
    modules := hPQ _ _ (.inl (by simp)) h.modules
    backend := hPQ _ _ (.inl (by simp)) h.backend
    config := hPQ _ _ (.inl (by simp)) h.config
    networks := fun n hn => hPQ _ _ (by grind) (h.networks n hn)
    ranges := fun n hn r hr => hPQ _ _ (by grind) (h.ranges n hn r hr)
    hosts := fun x hx => hPQ _ _ (by grind) (h.hosts x hx)
    interfaces := fun x hx i hi => hPQ _ _ (by grind) (h.interfaces x hx i hi)
    templates := fun t ht => hPQ _ _ (by grind) (h.templates t ht)
    reserved := hPQ _ _ (.inl (by simp)) h.reserved
    vmids := fun e he => hPQ _ _ (by grind) (h.vmids e he)
    ips := fun e he => hPQ _ _ (by grind) (h.ips e he)
    extra := hPQ _ _ (.inl (by simp)) h.extra }

/-- The document of an inventory that can be written is nested no deeper than any inventory. -/
theorem shaped_toValue
    (h : inv.Shaped)
    (hwritable : inv.isWritable = true) :
    inv.toValue.Shaped (levelLimit + 5) := by
  have hkept : inv.AllKept fun names extra => extra.Shaped levelLimit names := by
    refine AllKept.imp h fun names extra hextra => ?_
    rintro ⟨depth, hshaped⟩
    exact hshaped.of_isShallow (isWritable_iff.mp hwritable extra hextra)
  refine (layout_written hkept.extra.clear).shaped ?_ (hkept.extra.mono (Nat.le_add_right _ 4))
  simp only [written, List.forall_mem_cons]
  refine ⟨?_, ?_, ?_, ?_, ?_, ?_, by simp⟩
  · exact (ClusterConfig.shaped_toValue hkept.cluster).mono (by omega)
  · exact (ModuleSettings.shaped_toValue hkept.modules hkept.backend hkept.config).mono (by omega)
  · exact Value.shaped_list_map fun n hn =>
      (Network.shaped_toValue (hkept.networks n hn) (hkept.ranges n hn)).mono (by omega)
  · exact Value.shaped_list_map fun x hx =>
      Host.shaped_toValue (hkept.hosts x hx) (hkept.interfaces x hx)
  · exact Value.shaped_list_map fun t ht =>
      (Template.shaped_toValue (hkept.templates t ht)).mono (by omega)
  · exact (Reserved.shaped_toValue hkept.reserved hkept.vmids hkept.ips).mono (by omega)

theorem WellFormed.allKept
    (h : inv.WellFormed) :
    inv.AllKept fun names extra => extra.Clear names where
  cluster := h.cluster.clear
  modules := h.modules.clear
  backend := h.modules.backend
  config := by simp [Extra.Clear]
  networks n hn := (h.networks n hn).clear
  ranges n hn r hr := by
    obtain ⟨r', hr', hform⟩ := (h.networks n hn).staticRange
    obtain rfl := Option.some.inj (hr.symm.trans hr')
    exact hform.clear
  hosts x hx := (h.hosts x hx).clear
  interfaces x hx i hi := ((h.hosts x hx).interfaces i hi).clear
  templates t ht := h.templates t ht
  reserved := h.reserved.clear
  vmids e he := h.reserved.vmids e he
  ips e he := (h.reserved.ips e he).clear
  extra := h.clear

/-- An inventory that was read from a JSON document is one as it can be in memory. -/
theorem shaped_of_ofValue
    {d : Nat} {v : Value}
    (hv : v.Fits d)
    (h : ofValue v = .ok inv) :
    inv.Shaped :=
  (wellFormed_of_ofValue h).allKept.imp fun _ _ hextra hclear =>
    ⟨d, (fits_of_mem_extras hv h hextra).shaped hclear⟩

end Inventory
end Homelab
