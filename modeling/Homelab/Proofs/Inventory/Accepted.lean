import Homelab.Proofs.Allocation.Network

/-!
# Which inventories are accepted

A document whose fields are all right is accepted exactly if the parts of the inventory
agree: names and tokens are distinct, ranges run upwards within one family, machines sit
on known networks, and no reserved number or address is reserved twice or in use by a
machine or template.  Addresses are one if they are of one family and of one number,
however they are written.

A document that is not accepted is refused with one sentence, and what that sentence
says of the inventory is so.
-/

namespace Homelab

/-! ### Repeated values -/

section Repeated

variable {α : Type} [DecidableEq α]

/-- What is found is what was found before, and what has been seen or occurs again. -/
theorem mem_repeated
    {a : α} :
    ∀ {seen found values : List α},
      a ∈ repeated seen found values ↔
        a ∈ found ∨ a ∈ values ∧ (a ∈ seen ∨ 2 ≤ values.count a)
  | seen, found, [] => by simp [repeated]
  | seen, found, b :: rest => by
      rw [repeated, mem_repeated]
      by_cases hab : a = b
      · subst hab
        -- The value stands here, so that it occurs again if it is in the rest.
        have hcount : 2 ≤ (a :: rest).count a ↔ a ∈ rest := by
          rw [List.count_cons_self, ← List.count_pos_iff]
          omega
        rw [hcount]
        by_cases hseen : a ∈ seen <;> by_cases hfound : a ∈ found <;>
          simp [hseen, hfound]
      · have hcount : (b :: rest).count a = rest.count a := by
          rw [List.count_cons_of_ne (Ne.symm hab)]
        have hstep : a ∈ (if b ∈ seen ∧ b ∉ found then found ++ [b] else found) ↔ a ∈ found := by
          split <;> simp [hab]
        rw [hstep, hcount]
        simp [hab]

theorem repeated_nodup :
    ∀ {seen found values : List α}, found.Nodup → (repeated seen found values).Nodup
  | _, _, [], h => h
  | seen, found, a :: rest, h => by
      rw [repeated]
      refine repeated_nodup ?_
      split
      · rename_i hnew
        exact List.nodup_append'.mpr ⟨h, List.nodup_singleton a, by simpa using hnew.2⟩
      · exact h

/-- Some values are listed that occur more than once: each of these, and none twice. -/
structure Repeats (values found : List α) : Prop where
  some : found ≠ []
  once : found.Nodup
  exact : ∀ a, a ∈ found ↔ 2 ≤ values.count a

theorem repeats_duplicates
    {values : List α}
    (h : duplicates values ≠ []) :
    Repeats values (duplicates values) := by
  refine ⟨h, repeated_nodup List.nodup_nil, fun a => ?_⟩
  rw [duplicates, mem_repeated]
  simp only [List.not_mem_nil, false_or, and_iff_right_iff_imp]
  intro hcount
  exact List.count_pos_iff.mp (by omega)

end Repeated

/-! ### Agreement -/

/-- Two texts write one address: of one family and of one number. -/
def SameAddress (s t : String) : Prop :=
  ∃ a b, addressOf? s = some a ∧ addressOf? t = some b ∧
    a.family = b.family ∧ a.number = b.number

theorem sameAddress_iff
    {s t : String} {a : Address}
    (h : addressOf? s = some a) :
    SameAddress s t ↔ addressOf? t = some a := by
  constructor
  · rintro ⟨a', ⟨family, number⟩, ha, hb, hfamily, hnumber⟩
    rw [h, Option.some.injEq] at ha
    subst ha
    simp only at hfamily hnumber
    rw [hb, ← hfamily, ← hnumber]
  · exact fun ht => ⟨a, a, h, ht, rfl, rfl⟩

namespace Inventory

/-- The parts of an inventory agree. -/
structure Consistent (inv : Inventory) : Prop where
  networks : (inv.networks.map Network.name).Nodup
  templates : (inv.templates.map Template.name).Nodup
  ranges : ∀ n ∈ inv.networks, ∃ a b, n.ends? = some (a, b) ∧
    a.family = b.family ∧ a.number ≤ b.number
  interfaces : ∀ h ∈ inv.hosts, ∀ i ∈ h.interfaces, ∃ n ∈ inv.networks, n.name = i.network
  vmidTokens : (inv.reserved.vmids.map Reservation.token).Nodup
  ipTokens : (inv.reserved.ips.map Reservation.token).Nodup
  vmids : (inv.reserved.vmids.map Reservation.value).Nodup
  vmids_hosts : ∀ e ∈ inv.reserved.vmids, ∀ h ∈ inv.hosts, e.value ≠ h.vmid
  vmids_templates : ∀ e ∈ inv.reserved.vmids, ∀ t ∈ inv.templates, e.value ≠ t.vmid
  ips : inv.reserved.ips.Pairwise fun e f => ¬ SameAddress e.value f.value
  ips_hosts : ∀ e ∈ inv.reserved.ips, ∀ h ∈ inv.hosts, ∀ i ∈ h.interfaces,
    ¬ SameAddress e.value i.ip

theorem mem_committedVmids
    {inv : Inventory} {n : Int} :
    n ∈ inv.committedVmids ↔ (∃ h ∈ inv.hosts, h.vmid = n) ∨ ∃ t ∈ inv.templates, t.vmid = n := by
  simp [committedVmids]

theorem mem_hostAddresses
    {inv : Inventory} {a : Address} :
    a ∈ inv.hostAddresses ↔
      ∃ h ∈ inv.hosts, ∃ i ∈ h.interfaces, addressOf? i.ip = some a := by
  simp only [hostAddresses, hostAddressTexts, List.mem_filterMap, List.mem_flatMap, List.mem_map]
  constructor
  · rintro ⟨s, ⟨h, hh, i, hi, rfl⟩, ha⟩
    exact ⟨h, hh, i, hi, ha⟩
  · rintro ⟨h, hh, i, hi, ha⟩
    exact ⟨i.ip, ⟨h, hh, i, hi, rfl⟩, ha⟩

/-- The reserved addresses are distinct if no two texts write one address. -/
theorem reservedAddresses_nodup_iff
    {inv : Inventory} :
    inv.reservedAddresses.Nodup ↔
      inv.reserved.ips.Pairwise fun e f => ¬ SameAddress e.value f.value := by
  rw [reservedAddresses, List.Nodup, List.pairwise_filterMap]
  refine List.Pairwise.iff fun e f => ?_
  constructor
  · rintro h ⟨a, b, ha, hb, hfamily, hnumber⟩
    refine h a ha b hb ?_
    cases a
    cases b
    simp_all
  · rintro h a ha b hb rfl
    exact h ((sameAddress_iff ha).mpr hb)

/-- No reserved address is that of a machine if no text of the one writes the other. -/
theorem reservedAddresses_free_iff
    {inv : Inventory} :
    (∀ a ∈ inv.reservedAddresses, a ∉ inv.hostAddresses) ↔
      ∀ e ∈ inv.reserved.ips, ∀ h ∈ inv.hosts, ∀ i ∈ h.interfaces, ¬ SameAddress e.value i.ip := by
  constructor
  · rintro hfree e he h hh i hi ⟨a, b, ha, hb, hfamily, hnumber⟩
    have hsame := (sameAddress_iff ha).mp ⟨a, b, ha, hb, hfamily, hnumber⟩
    exact hfree a (mem_reservedAddresses.mpr ⟨e, he, ha⟩)
      (mem_hostAddresses.mpr ⟨h, hh, i, hi, hsame⟩)
  · intro hapart a ha hhost
    obtain ⟨e, he, hea⟩ := mem_reservedAddresses.mp ha
    obtain ⟨h, hh, i, hi, hia⟩ := mem_hostAddresses.mp hhost
    exact hapart e he h hh i hi ((sameAddress_iff hea).mpr hia)

/-- The parts of an inventory whose records are right agree exactly if it keeps to its
rules. -/
theorem consistent_iff_valid
    {inv : Inventory}
    (hwell : inv.WellFormed) :
    inv.Consistent ↔ inv.Valid := by
  constructor
  · intro h
    refine ⟨h.networks, h.templates, ?_, h.interfaces, h.vmidTokens, h.ipTokens, h.vmids, ?_,
      reservedAddresses_nodup_iff.mpr h.ips, reservedAddresses_free_iff.mpr h.ips_hosts⟩
    · intro n hn a b hends
      obtain ⟨a', b', hends', hordered⟩ := h.ranges n hn
      rw [hends, Option.some.injEq, Prod.mk.injEq] at hends'
      obtain ⟨rfl, rfl⟩ := hends'
      exact hordered
    · intro e he hcommitted
      rcases mem_committedVmids.mp hcommitted with ⟨m, hm, heq⟩ | ⟨t, ht, heq⟩
      · exact h.vmids_hosts e he m hm heq.symm
      · exact h.vmids_templates e he t ht heq.symm
  · intro h
    refine ⟨h.networks_nodup, h.templates_nodup, ?_, h.interfaces, h.vmidTokens_nodup,
      h.ipTokens_nodup, h.vmids_nodup, ?_, ?_, reservedAddresses_nodup_iff.mp h.addresses_nodup,
      reservedAddresses_free_iff.mp h.addresses_free⟩
    · intro n hn
      obtain ⟨a, b, hends⟩ := (hwell.networks n hn).ends
      exact ⟨a, b, hends, h.ranges n hn a b hends⟩
    · intro e he m hm heq
      exact h.vmids_free e he (mem_committedVmids.mpr (.inl ⟨m, hm, heq.symm⟩))
    · intro e he t ht heq
      exact h.vmids_free e he (mem_committedVmids.mpr (.inr ⟨t, ht, heq.symm⟩))

/-! ### The sentence of a refusal -/

/-- What a fault says of an inventory. -/
def Breaks (inv : Inventory) : InventoryFault → Prop
  | .repeatedNetworks names => Repeats (inv.networks.map Network.name) names
  | .repeatedTemplates names => Repeats (inv.templates.map Template.name) names
  | .mixedRange network => ∃ n ∈ inv.networks, n.name = network ∧
      ∃ a b, n.ends? = some (a, b) ∧ a.family ≠ b.family
  | .reversedRange network => ∃ n ∈ inv.networks, n.name = network ∧
      ∃ a b, n.ends? = some (a, b) ∧ a.family = b.family ∧ b.number < a.number
  | .unknownNetwork host network => ∃ h ∈ inv.hosts, h.name = host ∧
      (∃ i ∈ h.interfaces, i.network = network) ∧ ∀ n ∈ inv.networks, n.name ≠ network
  | .repeatedVmidTokens tokens => Repeats (inv.reserved.vmids.map Reservation.token) tokens
  | .repeatedIpTokens tokens => Repeats (inv.reserved.ips.map Reservation.token) tokens
  | .repeatedVmids vmids => Repeats (inv.reserved.vmids.map Reservation.value) vmids
  | .committedVmid vmid token =>
      (∃ e ∈ inv.reserved.vmids, e.value = vmid ∧ e.token = token) ∧
        ((∃ h ∈ inv.hosts, h.vmid = vmid) ∨ ∃ t ∈ inv.templates, t.vmid = vmid)
  | .repeatedAddresses addresses =>
      Repeats (inv.reserved.ips.filterMap fun e => addressOf? e.value) addresses
  | .assignedAddress ip token =>
      (∃ e ∈ inv.reserved.ips, e.value = ip ∧ e.token = token) ∧
        ∃ h ∈ inv.hosts, ∃ i ∈ h.interfaces, SameAddress ip i.ip

theorem repeatFault_eq_some
    {α : Type} [DecidableEq α]
    {make : List α → InventoryFault} {values : List α} {fault : InventoryFault}
    (h : repeatFault make (duplicates values) = some fault) :
    ∃ found, fault = make found ∧ Repeats values found := by
  unfold repeatFault at h
  split at h
  · simp at h
  · rename_i hsome
    rw [Option.some.injEq] at h
    exact ⟨_, h.symm, repeats_duplicates (by simpa using hsome)⟩

theorem breaks_of_rangeFault?
    {inv : Inventory} {fault : InventoryFault}
    (h : inv.networks.findSome? Network.rangeFault? = some fault) :
    inv.Breaks fault := by
  obtain ⟨n, hn, h⟩ := List.exists_of_findSome?_eq_some h
  unfold Network.rangeFault? at h
  split at h
  · rename_i a b hends
    split at h
    · rename_i hmixed
      rw [Option.some.injEq] at h
      subst h
      exact ⟨n, hn, rfl, a, b, hends, hmixed⟩
    · rename_i hfamily
      split at h
      · rename_i hreversed
        rw [Option.some.injEq] at h
        subst h
        exact ⟨n, hn, rfl, a, b, hends, not_not.mp hfamily, hreversed⟩
      · simp at h
  · simp at h

theorem breaks_of_strayInterface?
    {inv : Inventory} {fault : InventoryFault}
    (h : inv.strayInterface? = some fault) :
    inv.Breaks fault := by
  obtain ⟨m, hm, h⟩ := List.exists_of_findSome?_eq_some h
  obtain ⟨i, hi, rfl⟩ := Option.map_eq_some_iff.mp h
  refine ⟨m, hm, rfl, ⟨i, List.mem_of_find?_eq_some hi, rfl⟩, ?_⟩
  simpa using List.find?_some hi

theorem breaks_of_committedVmid?
    {inv : Inventory} {fault : InventoryFault}
    (h : inv.committedVmid? = some fault) :
    inv.Breaks fault := by
  obtain ⟨e, he, rfl⟩ := Option.map_eq_some_iff.mp h
  refine ⟨⟨e, List.mem_of_find?_eq_some he, rfl, rfl⟩, mem_committedVmids.mp ?_⟩
  simpa using List.find?_some he

theorem breaks_of_assignedAddress?
    {inv : Inventory} {fault : InventoryFault}
    (h : inv.assignedAddress? = some fault) :
    inv.Breaks fault := by
  obtain ⟨e, he, rfl⟩ := Option.map_eq_some_iff.mp h
  refine ⟨⟨e, List.mem_of_find?_eq_some he, rfl, rfl⟩, ?_⟩
  have hused := List.find?_some he
  split at hused
  · rename_i a ha
    obtain ⟨m, hm, i, hi, hia⟩ := mem_hostAddresses.mp (List.contains_iff_mem.mp hused)
    exact ⟨m, hm, i, hi, (sameAddress_iff ha).mpr hia⟩
  · simp at hused

/-- What the check says is broken is broken. -/
theorem breaks_of_fault?
    {inv : Inventory} {fault : InventoryFault}
    (h : inv.fault? = some fault) :
    inv.Breaks fault := by
  obtain ⟨found, hfound, rfl⟩ := List.exists_of_findSome?_eq_some h
  simp only [faults, List.mem_cons, List.not_mem_nil, or_false] at hfound
  rcases hfound with h | h | h | h | h | h | h | h | h | h
  · obtain ⟨names, rfl, hnames⟩ := repeatFault_eq_some h.symm
    exact hnames
  · obtain ⟨names, rfl, hnames⟩ := repeatFault_eq_some h.symm
    exact hnames
  · exact breaks_of_rangeFault? h.symm
  · exact breaks_of_strayInterface? h.symm
  · obtain ⟨tokens, rfl, htokens⟩ := repeatFault_eq_some h.symm
    exact htokens
  · obtain ⟨tokens, rfl, htokens⟩ := repeatFault_eq_some h.symm
    exact htokens
  · obtain ⟨vmids, rfl, hvmids⟩ := repeatFault_eq_some h.symm
    exact hvmids
  · exact breaks_of_committedVmid? h.symm
  · obtain ⟨addresses, rfl, haddresses⟩ := repeatFault_eq_some h.symm
    exact haddresses
  · exact breaks_of_assignedAddress? h.symm

/-! ### Acceptance -/

/-- The addresses of reservations and machines can all be read. -/
theorem WellFormed.addresses
    {inv : Inventory}
    (h : inv.WellFormed) :
    (∀ e ∈ inv.reserved.ips, ∃ a, addressOf? e.value = some a) ∧
      ∀ m ∈ inv.hosts, ∀ i ∈ m.interfaces, ∃ a, addressOf? i.ip = some a := by
  have hread : ∀ {s : String}, IsInterface s → ∃ a, addressOf? s = some a := by
    intro s hs
    obtain ⟨i, hi⟩ := Option.isSome_iff_exists.mp hs
    exact ⟨i.address, by rw [addressOf?, hi, Option.map_some]⟩
  exact ⟨fun e he => hread (h.reserved.ips e he).ip,
    fun m hm i hi => hread ((h.hosts m hm).interfaces i hi).ip⟩

/-- A document whose fields are right is accepted exactly if the parts of its inventory
agree, all addresses being readable; if they do not, it is refused as an invalid
inventory, with a sentence that is true of it. -/
theorem accepted_iff_consistent
    {es : Entries} {inv : Inventory}
    (h : ofFields es = .ok inv) :
    ((∀ e ∈ inv.reserved.ips, ∃ a, addressOf? e.value = some a) ∧
      ∀ m ∈ inv.hosts, ∀ i ∈ m.interfaces, ∃ a, addressOf? i.ip = some a) ∧
    (ofValue (.map es) = .ok inv ↔ inv.Consistent) ∧
    (¬ inv.Consistent → ∃ fault, inv.Breaks fault ∧
      ofValue (.map es) = .error (.inventoryInvalid [⟨[], .rule fault.message⟩])) := by
  have hwell := all_wellFormed es inv h
  rw [consistent_iff_valid hwell, ← fault?_eq_none_iff]
  refine ⟨hwell.addresses, ?_⟩
  cases hfault : inv.fault? with
  | none => simp [ofValue, h, hfault]
  | some fault =>
      have hrefused : ofValue (.map es) =
          .error (.inventoryInvalid [⟨[], .rule fault.message⟩]) := by
        simp only [ofValue, h, hfault]
      exact ⟨by simp [hrefused], fun _ => ⟨fault, breaks_of_fault? hfault, hrefused⟩⟩

/-- The entries of the small inventory with one address reserved in two spellings. -/
def twiceReserved : Entries :=
  [(.str "proxmox", .object
      [("api_token", .str "secret"), ("api_user", .str "root@pam!run"),
       ("endpoint", .str "https://pve:8006"), ("node", .str "pve")]),
   (.str "terraform", .object
      [("backend", .object [("config", .object []), ("type", .str "local")])]),
   (.str "reserved", .object
      [("ips", .list
        [.object [("ip", .str "10.0.0.2/24"), ("refId", .str "ip:lan:web")],
         .object [("ip", .str "10.0.0.2"), ("refId", .str "ip:lan:db")]])])]

/-- One address reserved in two spellings is refused. -/
theorem accepted_iff_consistent_sample :
    ∃ inv, ofFields twiceReserved = .ok inv ∧ ¬ inv.Consistent ∧
      ∃ fault, inv.Breaks fault ∧
        ofValue (.map twiceReserved) = .error (.inventoryInvalid [⟨[], .rule fault.message⟩]) := by
  refine ⟨_, rfl, ?_⟩
  obtain ⟨-, -, hrefused⟩ := @accepted_iff_consistent twiceReserved _ rfl
  refine (fun hapart => ⟨hapart, hrefused hapart⟩) fun hconsistent => ?_
  have hdistinct := List.rel_of_pairwise_cons hconsistent.ips List.mem_cons_self
  exact hdistinct ⟨⟨.v4, 167772162⟩, ⟨.v4, 167772162⟩, by decide, by decide, rfl, rfl⟩

end Inventory
end Homelab
