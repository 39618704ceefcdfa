import Homelab.Proofs.Allocation
import Homelab.Proofs.Ledger.Sound
import Mathlib.Data.Set.Card
import Mathlib.Order.Interval.Finset.Nat

/-!
# The free addresses of a network

An address is used on a network if it is the gateway or the name server of the network,
or the address of any machine or reservation; a free address of the network lies in its
static range and is not used.

In an inventory that was read every network has a static range with its ends in order.
So there is always an answer: the lowest free address, or that there is none.  What lies
below the lowest free address in the range is used, and so it is no further from the
first address of the range than there are used addresses in it.
-/

namespace Homelab

namespace Network

/-- An address lies in the static range of a network, both ends included. -/
def InStaticRange (n : Network) (x : Address) : Prop :=
  ∃ a b, n.ends? = some (a, b) ∧ x.family = a.family ∧ a.number ≤ x.number ∧ x.number ≤ b.number

/-- An address is the gateway or the name server of a network. -/
def IsOwn (n : Network) (x : Address) : Prop :=
  addressOf? n.gateway = some x ∨ addressOf? n.dns = some x

theorem inStaticRange_iff
    {n : Network} {a b x : Address}
    (h : n.ends? = some (a, b)) :
    n.InStaticRange x ↔ x.family = a.family ∧ a.number ≤ x.number ∧ x.number ≤ b.number := by
  constructor
  · rintro ⟨a', b', hends, hx⟩
    rw [h, Option.some.injEq, Prod.mk.injEq] at hends
    obtain ⟨rfl, rfl⟩ := hends
    exact hx
  · exact fun hx => ⟨a, b, h, hx⟩

/-! ### Ends of a static range -/

/-- The two ends of a range are those that are written in it. -/
theorem ends?_eq_some_iff
    {n : Network} {a b : Address} :
    n.ends? = some (a, b) ↔
      ∃ first last extra, n.staticRange = some ⟨some first, some last, extra⟩ ∧
        addressOf? first = some a ∧ addressOf? last = some b := by
  unfold ends?
  constructor
  · intro h
    split at h
    · rename_i first last extra hrange
      split at h
      · rename_i a' b' ha hb
        simp only [Option.some.injEq, Prod.mk.injEq] at h
        obtain ⟨rfl, rfl⟩ := h
        exact ⟨first, last, extra, hrange, ha, hb⟩
      · simp at h
    · simp at h
  · rintro ⟨first, last, extra, hrange, ha, hb⟩
    simp [hrange, ha, hb]

theorem ends?_of_interval
    {n : Network} {a b : Address}
    (h : n.interval = .ok (a, b)) :
    n.ends? = some (a, b) := by
  unfold interval at h
  split at h
  · rename_i first last extra hrange
    split at h
    · simp at h
    · split at h
      · simp at h
      · simp at h
      · rename_i a' b' ha hb
        split at h
        · simp at h
        · split at h
          · simp at h
          · simp only [Except.ok.injEq, Prod.mk.injEq] at h
            obtain ⟨rfl, rfl⟩ := h
            exact ends?_eq_some_iff.mpr ⟨first, last, extra, hrange, ha, hb⟩
  · simp at h

/-- A network whose parts are as they should be has a first and a last address. -/
theorem WellFormed.ends
    {n : Network}
    (h : n.WellFormed) :
    ∃ a b, n.ends? = some (a, b) := by
  obtain ⟨⟨first?, last?, extra⟩, hrange, hwell⟩ := h.staticRange
  obtain ⟨first, hfirst, hfirstRead⟩ := hwell.first
  obtain ⟨last, hlast, hlastRead⟩ := hwell.last
  obtain ⟨a, ha⟩ := Option.isSome_iff_exists.mp hfirstRead
  obtain ⟨b, hb⟩ := Option.isSome_iff_exists.mp hlastRead
  simp only at hfirst hlast
  subst hfirst hlast
  exact ⟨a, b, ends?_eq_some_iff.mpr
    ⟨first, last, extra, hrange, addressOf?_of_read? ha, addressOf?_of_read? hb⟩⟩

/-- Between ends of one family there are only addresses of that family. -/
theorem InStaticRange.inRange
    {n : Network} {a b x : Address}
    (hends : n.ends? = some (a, b))
    (hfamily : a.family = b.family)
    (hx : n.InStaticRange x) :
    x.InRange := by
  obtain ⟨first, last, extra, -, -, hb⟩ := ends?_eq_some_iff.mp hends
  obtain ⟨hxfamily, -, hlast⟩ := (inStaticRange_iff hends).mp hx
  have hb : b.number < 2 ^ b.family.bits := addressOf?_inRange hb
  unfold Address.InRange
  rw [hxfamily, hfamily]
  omega

/-- A range whose ends are of one family and in order is an interval. -/
theorem interval_eq
    {n : Network} {a b : Address}
    (hends : n.ends? = some (a, b))
    (hfamily : a.family = b.family)
    (hle : a.number ≤ b.number) :
    n.interval = .ok (a, b) := by
  obtain ⟨first, last, extra, hrange, ha, hb⟩ := ends?_eq_some_iff.mp hends
  have hempty : addressOf? "" = none := rfl
  have hset : ¬ (first = "" ∨ last = "") := by
    rintro (rfl | rfl)
    · simp [hempty] at ha
    · simp [hempty] at hb
  simp only [interval, hrange, if_neg hset, ha, hb, hfamily, ne_eq, not_true_eq_false, if_false,
    if_neg (Nat.not_lt.mpr hle)]

/-- The length of the subnet of a network can be told, and fits its family. -/
theorem WellFormed.subnetLength
    {n : Network}
    (h : n.WellFormed) :
    ∃ length, subnetLength? n.subnet = .ok length ∧
      ∀ p, length = some p → ∃ i, Interface.read? n.subnet = some i ∧ p = i.length := by
  obtain ⟨i, hi⟩ := Option.isSome_iff_exists.mp h.subnet
  unfold subnetLength?
  split
  · rw [hi]
    refine ⟨_, rfl, ?_⟩
    intro p hp
    exact ⟨i, rfl, by simpa using hp.symm⟩
  · exact ⟨none, rfl, by simp⟩

end Network

/-! ### Used and free addresses -/

namespace Inventory

/-- An address is used on a network. -/
def UsesAddress (inv : Inventory) (n : Network) (x : Address) : Prop :=
  n.IsOwn x ∨ x ∈ inv.hostAddresses ∨ x ∈ inv.reservedAddresses

/-- An address of the static range of a network that is not used. -/
structure IsFree (inv : Inventory) (n : Network) (x : Address) : Prop where
  inRange : n.InStaticRange x
  unused : ¬ inv.UsesAddress n x

/-- In an inventory with unique names, a network is found by its name. -/
theorem network?_eq_some
    {inv : Inventory} {n : Network}
    (h : (inv.networks.map Network.name).Nodup)
    (hn : n ∈ inv.networks) :
    inv.network? n.name = some n := by
  unfold network?
  generalize inv.networks = networks at h hn ⊢
  induction networks with
  | nil => simp at hn
  | cons first rest ih =>
      rw [List.map_cons, List.nodup_cons] at h
      rcases List.mem_cons.mp hn with rfl | hrest
      · simp
      · have hne : first.name ≠ n.name := by
          intro heq
          exact h.1 (heq ▸ List.mem_map_of_mem hrest)
        simp [hne, ih h.2 hrest]

/-- What counts as taken when a network is searched is what is used on it. -/
theorem mem_takenAddresses_iff
    {inv : Inventory} {n : Network} {x : Address}
    (h : inv.network? n.name = some n) :
    x ∈ inv.takenAddresses n.name ↔ inv.UsesAddress n x := by
  rw [mem_takenAddresses, claimedTexts, h]
  constructor
  · rintro ⟨s, hs, hx⟩
    simp only [List.mem_append, List.mem_cons, List.not_mem_nil, or_false, List.mem_map] at hs
    rcases hs with ((rfl | rfl) | hs) | ⟨e, he, rfl⟩
    · exact .inl (.inl hx)
    · exact .inl (.inr hx)
    · exact .inr (.inl (List.mem_filterMap.mpr ⟨s, hs, hx⟩))
    · exact .inr (.inr (mem_reservedAddresses.mpr ⟨e, he, hx⟩))
  · rintro ((hx | hx) | hx | hx)
    · exact ⟨n.gateway, by simp, hx⟩
    · exact ⟨n.dns, by simp, hx⟩
    · obtain ⟨s, hs, hx⟩ := List.mem_filterMap.mp hx
      exact ⟨s, by simp [hs], hx⟩
    · obtain ⟨e, he, hx⟩ := mem_reservedAddresses.mp hx
      exact ⟨e.value, by simp only [List.mem_append, List.mem_map]; exact .inr ⟨e, he, rfl⟩, hx⟩

/-- The network of an answer: its range is an interval and the length of its subnet can
be told, so that all depends on the search. -/
theorem nextAddress_eq
    {inv : Inventory} {n : Network} {a b : Address} {length : Option Nat}
    (hn : inv.network? n.name = some n)
    (hinterval : n.interval = .ok (a, b))
    (hlength : subnetLength? n.subnet = .ok length) :
    inv.nextAddress n.name =
      match inv.freeAddress? n.name a b with
      | some free => .ok (Network.addressText free length)
      | none => .error (.addressesTaken n.name) := by
  cases hfree : inv.freeAddress? n.name a b <;>
    simp only [nextAddress, intervalOf, hn, hinterval, hlength, hfree, Except.map]

/-- The search gives the lowest free address of the network. -/
theorem freeAddress?_eq_some_iff
    {inv : Inventory} {n : Network} {a b x : Address}
    (hn : inv.network? n.name = some n)
    (hends : n.ends? = some (a, b)) :
    inv.freeAddress? n.name a b = some x ↔
      inv.IsFree n x ∧ ∀ y, inv.IsFree n y → x.number ≤ y.number := by
  have htaken : ∀ k, (inv.takenNumbers n.name a.family).contains k = true ↔
      inv.UsesAddress n ⟨a.family, k⟩ := by
    intro k
    rw [List.contains_iff_mem, mem_takenNumbers, mem_takenAddresses_iff hn]
  have hfree : ∀ y, inv.IsFree n y ↔ y.family = a.family ∧
      (a.number ≤ y.number ∧ y.number ≤ b.number) ∧
      (inv.takenNumbers n.name a.family).contains y.number = false := by
    rintro ⟨family, k⟩
    rw [Bool.eq_false_iff, ne_eq, htaken]
    constructor
    · rintro ⟨hrange, hunused⟩
      obtain ⟨rfl, hbounds⟩ := (Network.inStaticRange_iff hends).mp hrange
      exact ⟨rfl, hbounds, hunused⟩
    · rintro ⟨rfl, hbounds, hunused⟩
      exact ⟨(Network.inStaticRange_iff hends).mpr ⟨rfl, hbounds⟩, hunused⟩
  rw [freeAddress?, Option.map_eq_some_iff]
  constructor
  · rintro ⟨k, hk, rfl⟩
    obtain ⟨hfirst, hlast, hk, hbelow⟩ := lowestFree?_eq_some_iff.mp hk
    refine ⟨(hfree _).mpr ⟨rfl, ⟨hfirst, hlast⟩, hk⟩, ?_⟩
    intro y hy
    obtain ⟨-, ⟨hyfirst, -⟩, hy⟩ := (hfree y).mp hy
    by_contra hlt
    have htaken := hbelow y.number hyfirst (by simpa using hlt)
    rw [hy] at htaken
    exact Bool.false_ne_true htaken
  · rintro ⟨hx, hlowest⟩
    obtain ⟨hfamily, ⟨hfirst, hlast⟩, hx⟩ := (hfree x).mp hx
    refine ⟨x.number, lowestFree?_eq_some_iff.mpr ⟨hfirst, hlast, hx, ?_⟩, by rw [← hfamily]⟩
    intro j hj hjx
    by_contra hunused
    have hjfree : inv.IsFree n ⟨a.family, j⟩ :=
      (hfree _).mpr ⟨rfl, ⟨hj, by simp only; omega⟩, by simpa using hunused⟩
    have := hlowest _ hjfree
    simp only at this
    omega

/-- The search finds nothing exactly if the network has no free address. -/
theorem freeAddress?_eq_none_iff
    {inv : Inventory} {n : Network} {a b : Address}
    (hn : inv.network? n.name = some n)
    (hends : n.ends? = some (a, b)) :
    inv.freeAddress? n.name a b = none ↔ ∀ x, ¬ inv.IsFree n x := by
  rw [freeAddress?, Option.map_eq_none_iff, lowestFree?_eq_none_iff]
  constructor
  · rintro hall ⟨family, k⟩ ⟨hrange, hunused⟩
    obtain ⟨rfl, hfirst, hlast⟩ := (Network.inStaticRange_iff hends).mp hrange
    have := hall k hfirst hlast
    rw [List.contains_iff_mem, mem_takenNumbers, mem_takenAddresses_iff hn] at this
    exact hunused this
  · intro hnone k hfirst hlast
    rw [List.contains_iff_mem, mem_takenNumbers, mem_takenAddresses_iff hn]
    by_contra hunused
    exact hnone ⟨a.family, k⟩
      ⟨(Network.inStaticRange_iff hends).mpr ⟨rfl, hfirst, hlast⟩, hunused⟩

/-- An answer is a free address of the network of that name, in the notation of the
network. -/
theorem isFree_of_nextAddress
    {inv : Inventory} {network text : String}
    (h : inv.nextAddress network = .ok text) :
    ∃ n ∈ inv.networks, n.name = network ∧
      ∃ free length, text = Network.addressText free length ∧ free.InRange ∧
        inv.IsFree n free := by
  obtain ⟨n, a, b, length, free, hn, hends, hfree, rfl⟩ := freeAddress?_of_nextAddress h
  have hname : n.name = network := by simpa using List.find?_some hn
  subst hname
  have hrange := Network.ends?_of_interval hends
  obtain ⟨hfree, -⟩ := (freeAddress?_eq_some_iff hn hrange).mp hfree
  exact ⟨n, List.mem_of_find?_eq_some hn, rfl, free, length, rfl,
    hfree.inRange.inRange hrange (interval_inRange hends).2, hfree⟩

/-- In an inventory that keeps to its rules a network gives its lowest free address,
with the length of its subnet, or there is none. -/
theorem nextAddress_cases
    {inv : Inventory} {n : Network}
    (hwell : inv.WellFormed)
    (hvalid : inv.Valid)
    (hn : n ∈ inv.networks) :
    (∃ free length, inv.nextAddress n.name = .ok (Network.addressText free length) ∧
      subnetLength? n.subnet = .ok length ∧ free.InRange ∧
      inv.IsFree n free ∧ ∀ x, inv.IsFree n x → free.number ≤ x.number) ∨
    (inv.nextAddress n.name = .error (.addressesTaken n.name) ∧ ∀ x, ¬ inv.IsFree n x) := by
  have hfind := network?_eq_some hvalid.networks_nodup hn
  obtain ⟨a, b, hends⟩ := (hwell.networks n hn).ends
  obtain ⟨hfamily, hle⟩ := hvalid.ranges n hn a b hends
  obtain ⟨length, hlength, -⟩ := (hwell.networks n hn).subnetLength
  have hnext := nextAddress_eq hfind (Network.interval_eq hends hfamily hle) hlength
  cases hfree : inv.freeAddress? n.name a b with
  | some free =>
      rw [hfree] at hnext
      have hlowest := (freeAddress?_eq_some_iff hfind hends).mp hfree
      exact .inl ⟨free, length, hnext, hlength,
        hlowest.1.inRange.inRange hends hfamily, hlowest⟩
  | none =>
      rw [hfree] at hnext
      exact .inr ⟨hnext, (freeAddress?_eq_none_iff hfind hends).mp hfree⟩

/-- The addresses of the static range of a network that are used. -/
def usedInRange (inv : Inventory) (n : Network) : Set Address :=
  {x | n.InStaticRange x ∧ inv.UsesAddress n x}

/-- The lowest free address is no further from the first address of the range than there
are used addresses in the range: each address in between is one of them. -/
theorem number_le_of_lowest
    {inv : Inventory} {n : Network} {a b free : Address}
    (hends : n.ends? = some (a, b))
    (hfree : inv.IsFree n free)
    (hlowest : ∀ x, inv.IsFree n x → free.number ≤ x.number) :
    free.number ≤ a.number + (inv.usedInRange n).ncard := by
  obtain ⟨-, hfirst, hlast⟩ := (Network.inStaticRange_iff hends).mp hfree.inRange
  have hinjective : Function.Injective (Address.mk a.family) := by
    intro j k hjk
    simpa using hjk
  have hfinite : (inv.usedInRange n).Finite := by
    refine ((Finset.Icc a.number b.number).image (Address.mk a.family)).finite_toSet.subset ?_
    rintro ⟨family, k⟩ ⟨hrange, -⟩
    obtain ⟨rfl, hk⟩ := (Network.inStaticRange_iff hends).mp hrange
    exact Finset.mem_image.mpr ⟨k, Finset.mem_Icc.mpr hk, rfl⟩
  have hbelow : ((Finset.Ico a.number free.number).image (Address.mk a.family) : Set Address) ⊆
      inv.usedInRange n := by
    intro x hx
    obtain ⟨k, hk, rfl⟩ := Finset.mem_image.mp (Finset.mem_coe.mp hx)
    obtain ⟨hk, hkfree⟩ := Finset.mem_Ico.mp hk
    have hrange : n.InStaticRange ⟨a.family, k⟩ :=
      (Network.inStaticRange_iff hends).mpr ⟨rfl, hk, by simp only; omega⟩
    refine ⟨hrange, ?_⟩
    by_contra hunused
    have hle := hlowest _ ⟨hrange, hunused⟩
    simp only at hle
    omega
  have hcard := Set.ncard_le_ncard hbelow hfinite
  rw [Set.ncard_coe_finset, Finset.card_image_of_injective _ hinjective, Nat.card_Ico] at hcard
  omega

/-- The answer for a network of an inventory that was read: the part of the text before
any slash is the lowest free address of the network, which is no further from the first
address of the static range than there are used addresses in the range; and there is no
such answer, but the one that all addresses are taken, exactly if no address is free. -/
theorem nextAddress_lowest
    {v : Value} {inv : Inventory} {n : Network}
    (h : Inventory.ofValue v = .ok inv)
    (hn : n ∈ inv.networks) :
    ∃ a b, n.ends? = some (a, b) ∧ a.family = b.family ∧ a.number ≤ b.number ∧
      ((∃ text free, inv.nextAddress n.name = .ok text ∧
          Address.readChars? (text.toList.takeWhile (· ≠ '/')) = some free ∧
          inv.IsFree n free ∧ (∀ x, inv.IsFree n x → free.number ≤ x.number) ∧
          free.number ≤ a.number + (inv.usedInRange n).ncard) ∨
        inv.nextAddress n.name = .error (.addressesTaken n.name)) ∧
      (inv.nextAddress n.name = .error (.addressesTaken n.name) ↔ ∀ x, ¬ inv.IsFree n x) := by
  have hwell := wellFormed_of_ofValue h
  have hvalid := valid_of_ofValue h
  obtain ⟨a, b, hends⟩ := (hwell.networks n hn).ends
  obtain ⟨hfamily, hle⟩ := hvalid.ranges n hn a b hends
  refine ⟨a, b, hends, hfamily, hle, ?_⟩
  rcases nextAddress_cases hwell hvalid hn with
    ⟨free, length, hnext, -, hrange, hfree, hlowest⟩ | ⟨hnext, hnone⟩
  · refine ⟨.inl ⟨_, free, hnext, readChars?_takeWhile_addressText hrange length, hfree, hlowest,
      number_le_of_lowest hends hfree hlowest⟩, ?_⟩
    · rw [hnext]
      simp only [reduceCtorEq, false_iff, not_forall, not_not]
      exact ⟨free, hfree⟩
  · exact ⟨.inr hnext, fun _ => hnone, fun _ => hnext⟩

/-- The small inventory has a free address, and so there is an answer. -/
theorem nextAddress_lowest_sample :
    ∃ text free, (sampleInventory (.int 1)).nextAddress "lan" = .ok text ∧
      Address.readChars? (text.toList.takeWhile (· ≠ '/')) = some free := by
  obtain ⟨a, b, -, -, -, ⟨text, free, hnext, hread, -⟩ | hnext, hnone⟩ :=
    nextAddress_lowest (ofValue_sampleDocument (.int 1)) List.mem_cons_self
  · exact ⟨text, free, hnext, hread⟩
  · refine absurd ?_ (hnone.mp hnext ⟨.v4, 167772162⟩)
    refine ⟨⟨⟨.v4, 167772162⟩, ⟨.v4, 167772169⟩, by decide, rfl, by decide, by decide⟩, ?_⟩
    simp only [UsesAddress, Network.IsOwn]
    decide

end Inventory
end Homelab
