import Homelab.Proofs.Inventory.Normal

/-!
# The rules of an inventory

The check of an inventory finds no broken rule exactly if all rules hold.  It looks
only at the bare inventory, which leaves out what the records keep without knowing it.
-/

namespace Homelab

/-! ### Repeated values -/

theorem repeated_eq_nil_iff
    {α : Type} [DecidableEq α] :
    ∀ {seen found values : List α},
      repeated seen found values = [] ↔
        found = [] ∧ values.Nodup ∧ ∀ a ∈ values, a ∉ seen
  | seen, found, [] => by simp [repeated]
  | seen, found, a :: rest => by
      have hfound : (if a ∈ seen ∧ a ∉ found then found ++ [a] else found) = [] ↔
          found = [] ∧ a ∉ seen := by
        split
        · rename_i h
          simp [h.1]
        · rename_i h
          constructor
          · rintro rfl
            simpa using h
          · exact fun hempty => hempty.1
      rw [repeated, repeated_eq_nil_iff, hfound, List.nodup_cons]
      constructor
      · rintro ⟨⟨hempty, ha⟩, hrest, hfresh⟩
        refine ⟨hempty, ⟨?_, hrest⟩, ?_⟩
        · intro hmem
          exact hfresh a hmem (by simp)
        · intro b hb
          rcases List.mem_cons.mp hb with rfl | hb
          · exact ha
          · exact fun hseen => hfresh b hb (List.mem_cons_of_mem _ hseen)
      · rintro ⟨hempty, ⟨hnot, hrest⟩, hfresh⟩
        refine ⟨⟨hempty, hfresh a (by simp)⟩, hrest, ?_⟩
        intro b hb hseen
        rcases List.mem_cons.mp hseen with rfl | hseen
        · exact hnot hb
        · exact hfresh b (List.mem_cons_of_mem _ hb) hseen

/-- Nothing is repeated exactly if the values are distinct. -/
theorem duplicates_eq_nil_iff
    {α : Type} [DecidableEq α]
    {values : List α} :
    duplicates values = [] ↔ values.Nodup := by
  simp [duplicates, repeated_eq_nil_iff]

namespace Inventory

theorem repeatFault_eq_none_iff
    {α : Type} [DecidableEq α]
    {make : List α → InventoryFault} {values : List α} :
    repeatFault make (duplicates values) = none ↔ values.Nodup := by
  rw [← duplicates_eq_nil_iff, repeatFault]
  cases duplicates values <;> simp

/-! ### The rules -/

theorem rangeFault?_eq_none_iff
    {n : Network} :
    n.rangeFault? = none ↔
      ∀ a b, n.ends? = some (a, b) → a.family = b.family ∧ a.number ≤ b.number := by
  unfold Network.rangeFault?
  cases hends : n.ends? with
  | none => simp
  | some ends =>
      obtain ⟨a, b⟩ := ends
      by_cases hfamily : a.family = b.family
      · by_cases hnumber : b.number < a.number
        · simp [hfamily, hnumber]
        · simp [hfamily, hnumber]
          omega
      · simp [hfamily]

theorem strayInterface?_eq_none_iff
    {inv : Inventory} :
    inv.strayInterface? = none ↔
      ∀ h ∈ inv.hosts, ∀ i ∈ h.interfaces, ∃ n ∈ inv.networks, n.name = i.network := by
  simp [strayInterface?, List.findSome?_eq_none_iff, List.find?_eq_none]

theorem committedVmid?_eq_none_iff
    {inv : Inventory} :
    inv.committedVmid? = none ↔ ∀ e ∈ inv.reserved.vmids, e.value ∉ inv.committedVmids := by
  simp [committedVmid?, List.find?_eq_none]

theorem mem_reservedAddresses
    {inv : Inventory} {a : Address} :
    a ∈ inv.reservedAddresses ↔ ∃ e ∈ inv.reserved.ips, addressOf? e.value = some a := by
  simp [reservedAddresses, List.mem_filterMap]

theorem assignedAddress?_eq_none_iff
    {inv : Inventory} :
    inv.assignedAddress? = none ↔ ∀ a ∈ inv.reservedAddresses, a ∉ inv.hostAddresses := by
  rw [assignedAddress?, Option.map_eq_none_iff, List.find?_eq_none]
  constructor
  · intro h a ha
    obtain ⟨e, he, hea⟩ := mem_reservedAddresses.mp ha
    have := h e he
    simpa [hea] using this
  · intro h e he
    cases hea : addressOf? e.value with
    | none => simp
    | some a => simpa using h a (mem_reservedAddresses.mpr ⟨e, he, hea⟩)

/-- The check finds no broken rule exactly if all rules hold. -/
theorem fault?_eq_none_iff
    {inv : Inventory} :
    inv.fault? = none ↔ inv.Valid := by
  simp only [fault?, faults, List.findSome?_eq_none_iff, List.mem_cons, List.not_mem_nil,
    or_false, forall_eq_or_imp, forall_eq, id_eq, repeatFault_eq_none_iff,
    strayInterface?_eq_none_iff, committedVmid?_eq_none_iff, assignedAddress?_eq_none_iff,
    rangeFault?_eq_none_iff]
  constructor
  · rintro ⟨h₁, h₂, h₃, h₄, h₅, h₆, h₇, h₈, h₉, h₁₀⟩
    exact ⟨h₁, h₂, h₃, h₄, h₅, h₆, h₇, h₈, h₉, h₁₀⟩
  · rintro ⟨h₁, h₂, h₃, h₄, h₅, h₆, h₇, h₈, h₉, h₁₀⟩
    exact ⟨h₁, h₂, h₃, h₄, h₅, h₆, h₇, h₈, h₉, h₁₀⟩

theorem valid_of_ofValue
    {v : Value} {inv : Inventory}
    (h : ofValue v = .ok inv) :
    inv.Valid := by
  obtain ⟨es, rfl, -, hfault⟩ := ofValue_eq_ok_iff.mp h
  exact fault?_eq_none_iff.mp hfault

end Inventory

/-! ### Bare inventories -/

/-- A cluster section without what it keeps. -/
def ClusterConfig.bare (c : ClusterConfig) : ClusterConfig := { c with extra := [] }

/-- A backend section without what it keeps. -/
def StateBackend.bare (b : StateBackend) : StateBackend := { b with config := [], extra := [] }

/-- A module section without what it keeps. -/
def ModuleSettings.bare (m : ModuleSettings) : ModuleSettings :=
  { backend := m.backend.bare, extra := [] }

/-- A static range without what it keeps. -/
def StaticRange.bare (r : StaticRange) : StaticRange := { r with extra := [] }

/-- A network without what it keeps. -/
def Network.bare (n : Network) : Network :=
  { n with staticRange := n.staticRange.map StaticRange.bare, extra := [] }

/-- An interface without what it keeps. -/
def HostInterface.bare (i : HostInterface) : HostInterface := { i with extra := [] }

/-- A machine without what it keeps. -/
def Host.bare (h : Host) : Host :=
  { h with interfaces := h.interfaces.map HostInterface.bare, extra := [] }

/-- A template without what it keeps. -/
def Template.bare (t : Template) : Template := { t with extra := [] }

/-- A reservation without what it keeps. -/
def Reservation.bare {α : Type} (e : Reservation α) : Reservation α := { e with extra := [] }

/-- Reservations without what they keep. -/
def Reserved.bare (r : Reserved) : Reserved :=
  { vmids := r.vmids.map Reservation.bare, ips := r.ips.map Reservation.bare, extra := [] }

/-- An inventory without what its records keep. -/
def Inventory.bare (inv : Inventory) : Inventory :=
  { cluster := inv.cluster.bare
    modules := inv.modules.bare
    networks := inv.networks.map Network.bare
    hosts := inv.hosts.map Host.bare
    templates := inv.templates.map Template.bare
    reserved := inv.reserved.bare
    extra := [] }

@[simp] theorem Network.ends?_bare
    (n : Network) :
    n.bare.ends? = n.ends? := by
  obtain ⟨name, subnet, gateway, dns, range, iface, dhcp, domain, extra⟩ := n
  cases range with
  | none => rfl
  | some r =>
      obtain ⟨first, last, kept⟩ := r
      cases first <;> cases last <;> rfl

@[simp] theorem Network.rangeFault?_bare
    (n : Network) :
    n.bare.rangeFault? = n.rangeFault? := by
  rw [rangeFault?, rangeFault?, ends?_bare]
  rfl

namespace Inventory

theorem networkNames_bare
    (inv : Inventory) :
    inv.bare.networks.map Network.name = inv.networks.map Network.name := by
  simp [bare, Network.bare]

theorem templateNames_bare
    (inv : Inventory) :
    inv.bare.templates.map Template.name = inv.templates.map Template.name := by
  simp [bare, Template.bare]

theorem ranges_bare
    (inv : Inventory) :
    inv.bare.networks.findSome? Network.rangeFault? =
      inv.networks.findSome? Network.rangeFault? := by
  simp [bare, List.findSome?_map, Function.comp_def]

theorem strayInterface?_bare
    (inv : Inventory) :
    inv.bare.strayInterface? = inv.strayInterface? := by
  rw [strayInterface?, networkNames_bare]
  simp [bare, Host.bare, HostInterface.bare, List.findSome?_map, List.find?_map,
    Function.comp_def, strayInterface?]
  rfl

theorem committedVmids_bare
    (inv : Inventory) :
    inv.bare.committedVmids = inv.committedVmids := by
  simp [committedVmids, bare, Host.bare, Template.bare, Function.comp_def]

theorem hostAddressTexts_bare
    (inv : Inventory) :
    inv.bare.hostAddressTexts = inv.hostAddressTexts := by
  simp [hostAddressTexts, bare, Host.bare, HostInterface.bare, List.flatMap_map, Function.comp_def]

theorem hostAddresses_bare
    (inv : Inventory) :
    inv.bare.hostAddresses = inv.hostAddresses := by
  rw [hostAddresses, hostAddresses, hostAddressTexts_bare]

theorem reservedAddresses_bare
    (inv : Inventory) :
    inv.bare.reservedAddresses = inv.reservedAddresses := by
  simp [reservedAddresses, bare, Reserved.bare, Reservation.bare, List.filterMap_map,
    Function.comp_def]

theorem committedVmid?_bare
    (inv : Inventory) :
    inv.bare.committedVmid? = inv.committedVmid? := by
  rw [committedVmid?, committedVmid?, committedVmids_bare]
  simp only [bare, Reserved.bare, List.find?_map, Option.map_map]
  rfl

theorem assignedAddress?_bare
    (inv : Inventory) :
    inv.bare.assignedAddress? = inv.assignedAddress? := by
  rw [assignedAddress?, assignedAddress?, hostAddresses_bare]
  simp only [bare, Reserved.bare, List.find?_map, Option.map_map]
  rfl

/-- The rules do not look at what the records keep. -/
theorem fault?_bare
    (inv : Inventory) :
    inv.bare.fault? = inv.fault? := by
  have hvmids : ∀ {β : Type} (f : Reservation Int → β), (∀ e, f e.bare = f e) →
      inv.bare.reserved.vmids.map f = inv.reserved.vmids.map f := by
    intro β f hf
    simp [bare, Reserved.bare, Function.comp_def, hf]
  have hips : ∀ {β : Type} (f : Reservation String → β), (∀ e, f e.bare = f e) →
      inv.bare.reserved.ips.map f = inv.reserved.ips.map f := by
    intro β f hf
    simp [bare, Reserved.bare, Function.comp_def, hf]
  rw [fault?, fault?, faults, faults, networkNames_bare, templateNames_bare, ranges_bare,
    strayInterface?_bare, committedVmid?_bare, reservedAddresses_bare, assignedAddress?_bare,
    hvmids Reservation.token fun _ => rfl, hvmids Reservation.value fun _ => rfl,
    hips Reservation.token fun _ => rfl]

/-- Inventories that differ only in what their records keep follow the same rules. -/
theorem Valid.of_bare_eq
    {inv inv' : Inventory}
    (h : inv.Valid)
    (hbare : inv'.bare = inv.bare) :
    inv'.Valid := by
  rw [← fault?_eq_none_iff] at h ⊢
  rw [← fault?_bare, hbare, fault?_bare, h]

end Inventory

/-! ### Reading back -/

theorem Network.bare_normal
    (n : Network) :
    n.normal.bare = n.bare := by
  simp [normal, bare, StaticRange.normal, Function.comp_def]
  rfl

theorem Host.bare_normal
    (h : Host) :
    h.normal.bare = h.bare := by
  simp [normal, bare, HostInterface.normal, HostInterface.bare, Function.comp_def]

theorem Reserved.bare_normal
    (r : Reserved) :
    r.normal.bare = r.bare := by
  simp [normal, bare, Reservation.normal, Reservation.bare, Function.comp_def]

namespace Inventory

theorem bare_normal
    (inv : Inventory) :
    inv.normal.bare = inv.bare := by
  have hnetworks : Network.bare ∘ Network.normal = Network.bare := by
    funext n
    exact Network.bare_normal n
  have hhosts : Host.bare ∘ Host.normal = Host.bare := by
    funext h
    exact Host.bare_normal h
  simp [normal, bare, hnetworks, hhosts, Reserved.bare_normal, ClusterConfig.normal,
    ClusterConfig.bare, ModuleSettings.normal, ModuleSettings.bare, StateBackend.normal,
    StateBackend.bare, Template.bare, Template.normal, Function.comp_def]

/-- The document of a valid inventory is read again, as the inventory in document form. -/
theorem ofValue_toValue
    {inv : Inventory}
    (hform : inv.WellFormed)
    (hvalid : inv.Valid) :
    ofValue inv.toValue = .ok inv.normal := by
  refine ofValue_eq_ok_iff.mpr ⟨_, toValue_eq inv, ofFields_written hform, ?_⟩
  exact fault?_eq_none_iff.mpr (hvalid.of_bare_eq (bare_normal inv))

/-- The document of an inventory is read again only if no rule is broken. -/
theorem ofValue_toValue_eq_ok_iff
    {inv inv' : Inventory}
    (hform : inv.WellFormed) :
    ofValue inv.toValue = .ok inv' ↔ inv.Valid ∧ inv' = inv.normal := by
  constructor
  · intro h
    obtain ⟨es, hes, hread, hfault⟩ := ofValue_eq_ok_iff.mp h
    rw [toValue_eq, Value.map.injEq] at hes
    rw [← hes, ofFields_written hform, Checked.ok.injEq] at hread
    subst hread
    exact ⟨(fault?_eq_none_iff.mp hfault).of_bare_eq (bare_normal inv).symm, rfl⟩
  · rintro ⟨hvalid, rfl⟩
    exact ofValue_toValue hform hvalid

end Inventory
end Homelab
