import Homelab.Allocation
import Homelab.Inventory.Invariant
import Homelab.Proofs.Address.RoundTrip

/-!
# What an allocation gives

The search for a free number goes through an interval from below.  What it gives is
the lowest number of the interval that is not taken, and it gives nothing only if all
of them are.  A machine number that is handed out is in use nowhere, and so is an
address.
-/

namespace Homelab

/-! ### The lowest free number -/

/-- The search gives the lowest number of the interval that is not taken. -/
theorem lowestFree?_eq_some_iff
    {taken : Nat → Bool} {first last k : Nat} :
    lowestFree? taken first last = some k ↔
      first ≤ k ∧ k ≤ last ∧ taken k = false ∧ ∀ j, first ≤ j → j < k → taken j = true := by
  induction first using lowestFree?.induct taken last with
  | case1 first hlast =>
      rw [lowestFree?, if_pos hlast]
      constructor
      · simp
      · rintro ⟨hfirst, hk, -⟩
        omega
  | case2 first hlast htaken ih =>
      rw [lowestFree?, if_neg hlast, if_pos htaken, ih]
      constructor
      · rintro ⟨hfirst, hk, hfree, hbelow⟩
        refine ⟨by omega, hk, hfree, ?_⟩
        intro j hj hjk
        by_cases hjf : j = first
        · rw [hjf, htaken]
        · exact hbelow j (by omega) hjk
      · rintro ⟨hfirst, hk, hfree, hbelow⟩
        have hne : first ≠ k := by
          rintro rfl
          simp [htaken] at hfree
        exact ⟨by omega, hk, hfree, fun j hj hjk => hbelow j (by omega) hjk⟩
  | case3 first hlast hfree =>
      rw [lowestFree?, if_neg hlast, if_neg hfree]
      simp only [Bool.not_eq_true] at hfree
      constructor
      · intro h
        simp only [Option.some.injEq] at h
        subst h
        exact ⟨by omega, by omega, hfree, fun j hj hjk => by omega⟩
      · rintro ⟨hfirst, -, -, hbelow⟩
        by_cases hk : first = k
        · rw [hk]
        · have htaken := hbelow first (by omega) (by omega)
          simp [hfree] at htaken

/-- The search gives nothing exactly if every number of the interval is taken. -/
theorem lowestFree?_eq_none_iff
    {taken : Nat → Bool} {first last : Nat} :
    lowestFree? taken first last = none ↔ ∀ k, first ≤ k → k ≤ last → taken k = true := by
  induction first using lowestFree?.induct taken last with
  | case1 first hlast =>
      rw [lowestFree?, if_pos hlast]
      exact ⟨fun _ k hk hlast => by omega, fun _ => rfl⟩
  | case2 first hlast htaken ih =>
      rw [lowestFree?, if_neg hlast, if_pos htaken, ih]
      constructor
      · intro h k hk hkl
        by_cases hkf : k = first
        · rw [hkf, htaken]
        · exact h k (by omega) hkl
      · exact fun h k hk hkl => h k (by omega) hkl
  | case3 first hlast hfree =>
      rw [lowestFree?, if_neg hlast, if_neg hfree]
      constructor
      · simp
      · intro h
        exact absurd (h first (by omega) (by omega)) hfree

namespace Inventory

/-! ### Machine numbers -/

/-- A machine number that is handed out lies in the range of its resource and is in
use nowhere. -/
theorem nextVmid_spec
    {inv : Inventory} {resource : String} {n : Int}
    (h : inv.nextVmid resource = .ok n) :
    n ∉ inv.usedVmids ∧
      ∃ r, Resource.named.lookup resource = some r ∧ (r.first : Int) ≤ n ∧ n ≤ r.last := by
  unfold nextVmid at h
  split at h
  · simp at h
  · rename_i r hr
    split at h
    · rename_i k hk
      simp only [Except.ok.injEq] at h
      subst h
      obtain ⟨hfirst, hlast, hfree, -⟩ := lowestFree?_eq_some_iff.mp hk
      have hnot : (k : Int) ∉ inv.usedVmids := by
        simpa using hfree
      exact ⟨hnot, r, hr, by omega, by omega⟩
    · simp at h

/-- A machine number that is handed out is the lowest of the range of its resource that is in use
nowhere. -/
theorem lowest_of_nextVmid
    {inv : Inventory} {r : Resource} {n : Int}
    (h : inv.nextVmid r.name = .ok n) :
    r.first ≤ n ∧ n ≤ r.last ∧ n ∉ inv.usedVmids ∧
      ∀ k : Int, r.first ≤ k → k < n → k ∈ inv.usedVmids := by
  have hname : Resource.named.lookup r.name = some r := by cases r <;> rfl
  rw [nextVmid, hname] at h
  simp only at h
  split at h
  · rename_i k hk
    obtain rfl := Except.ok.inj h
    obtain ⟨hfirst, hlast, hfree, hbelow⟩ := lowestFree?_eq_some_iff.mp hk
    refine ⟨by omega, by omega, by simpa using hfree, fun j hj hlt => ?_⟩
    obtain ⟨i, rfl⟩ := Int.eq_ofNat_of_zero_le (show 0 ≤ j by omega)
    simpa using hbelow i (by omega) (by omega)
  · cases h

/-- The lowest number of the range that is in use nowhere is handed out. -/
theorem nextVmid_eq
    {inv : Inventory} {resource : String} {r : Resource} {k : Nat}
    (hr : Resource.named.lookup resource = some r)
    (hfirst : r.first ≤ k)
    (hlast : k ≤ r.last)
    (hfree : (k : Int) ∉ inv.usedVmids)
    (hlowest : ∀ j : Nat, r.first ≤ j → j < k → (j : Int) ∈ inv.usedVmids) :
    inv.nextVmid resource = .ok k := by
  have hk : inv.freeVmid? r = some k := by
    refine lowestFree?_eq_some_iff.mpr ⟨hfirst, hlast, by simpa using hfree, ?_⟩
    intro j hj hjk
    simpa using hlowest j hj hjk
  simp only [nextVmid, hr, hk]

/-! ### Addresses -/

theorem mem_takenAddresses
    {inv : Inventory} {network : String} {a : Address} :
    a ∈ inv.takenAddresses network ↔ ∃ s ∈ inv.claimedTexts network, addressOf? s = some a := by
  simp [takenAddresses, List.mem_filterMap]

theorem mem_takenNumbers
    {inv : Inventory} {network : String} {family : Family} {k : Nat} :
    k ∈ inv.takenNumbers network family ↔ ⟨family, k⟩ ∈ inv.takenAddresses network := by
  simp only [takenNumbers, List.mem_map, List.mem_filter, decide_eq_true_eq]
  constructor
  · rintro ⟨a, ⟨ha, rfl⟩, rfl⟩
    exact ha
  · intro ha
    exact ⟨_, ⟨ha, rfl⟩, rfl⟩

/-- The addresses of machines and of reservations are taken on every network. -/
theorem mem_takenAddresses_of_mem
    {inv : Inventory} {network : String} {a : Address}
    (h : a ∈ inv.hostAddresses ∨ a ∈ inv.reservedAddresses) :
    a ∈ inv.takenAddresses network := by
  rw [mem_takenAddresses]
  rcases h with h | h
  · obtain ⟨s, hs, ha⟩ := List.mem_filterMap.mp h
    exact ⟨s, by simp [claimedTexts, hs], ha⟩
  · obtain ⟨e, he, ha⟩ := List.mem_filterMap.mp h
    refine ⟨e.value, ?_, ha⟩
    simp only [claimedTexts, List.mem_append, List.mem_map]
    exact .inr ⟨e, he, rfl⟩

theorem interval_inRange
    {n : Network} {a b : Address}
    (h : n.interval = .ok (a, b)) :
    b.InRange ∧ a.family = b.family := by
  unfold Network.interval at h
  split at h
  · split at h
    · simp at h
    · split at h
      · simp at h
      · simp at h
      · rename_i first last _ _ _ a' b' ha hb
        split at h
        · simp at h
        · rename_i hfamily
          split at h
          · simp at h
          · simp only [Except.ok.injEq, Prod.mk.injEq] at h
            obtain ⟨rfl, rfl⟩ := h
            exact ⟨addressOf?_inRange hb, by simpa using hfamily⟩
  · simp at h

theorem freeAddress?_spec
    {inv : Inventory} {network : String} {a b free : Address}
    (hrange : b.InRange)
    (hfamily : a.family = b.family)
    (h : inv.freeAddress? network a b = some free) :
    free.InRange ∧ free ∉ inv.takenAddresses network := by
  simp only [freeAddress?, Option.map_eq_some_iff] at h
  obtain ⟨k, hk, rfl⟩ := h
  obtain ⟨-, hlast, hfree, -⟩ := lowestFree?_eq_some_iff.mp hk
  constructor
  · unfold Address.InRange at hrange ⊢
    simp only [hfamily]
    omega
  · rw [← mem_takenNumbers]
    simpa using hfree

/-- An answer is what the search gives between the ends of the network of that name. -/
theorem freeAddress?_of_nextAddress
    {inv : Inventory} {network ip : String}
    (h : inv.nextAddress network = .ok ip) :
    ∃ n a b length free, inv.network? network = some n ∧ n.interval = .ok (a, b) ∧
      inv.freeAddress? network a b = some free ∧ ip = Network.addressText free length := by
  unfold nextAddress intervalOf at h
  cases hn : inv.network? network with
  | none => simp [hn] at h
  | some n =>
      cases hends : n.interval with
      | error e => simp [hn, hends, Except.map] at h
      | ok ends =>
          obtain ⟨a, b⟩ := ends
          cases hlength : subnetLength? n.subnet with
          | error reason => simp [hn, hends, hlength, Except.map] at h
          | ok length =>
              cases hfree : inv.freeAddress? network a b with
              | none => simp [hn, hends, hlength, hfree, Except.map] at h
              | some free =>
                  simp only [hn, hends, hlength, hfree, Except.map, Except.ok.injEq] at h
                  exact ⟨n, a, b, length, free, rfl, hends, hfree, h.symm⟩

/-- An address that is handed out is the text of an address that is in use nowhere. -/
theorem nextAddress_spec
    {inv : Inventory} {network ip : String}
    (h : inv.nextAddress network = .ok ip) :
    ∃ free length, ip = Network.addressText free length ∧ free.InRange ∧
      free ∉ inv.takenAddresses network := by
  obtain ⟨n, a, b, length, free, -, hends, hfree, rfl⟩ := freeAddress?_of_nextAddress h
  obtain ⟨hrange, hfamily⟩ := interval_inRange hends
  exact ⟨free, length, rfl, freeAddress?_spec hrange hfamily hfree⟩

end Inventory
end Homelab
