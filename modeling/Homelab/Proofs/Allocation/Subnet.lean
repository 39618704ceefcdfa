import Homelab.Proofs.Allocation.Network

/-!
# Addresses with the length of their subnet

A free address is written with the length of the subnet of its network.  The static
range and the subnet are checked one by one, and the range alone decides of which
family the address is: if the range is of version 4 and the subnet of version 6, its
length may be more than a version 4 address has bits.  The text is then no address, and
what is to be reserved is refused when it is recorded.

On all other networks an address that is to be reserved is a free one with the length of
the subnet, or the network is not known or used up.
-/

namespace Homelab

/-! ### Texts of allocated addresses -/

/-- An address is read back with the length that it was given, if it has so many bits. -/
theorem read?_addressText_of_le
    {x : Address} {length : Option Nat}
    (hx : x.InRange)
    (hlength : ∀ p, length = some p → p ≤ x.family.bits) :
    Interface.read? (Network.addressText x length) = some ⟨x, length.getD x.family.bits⟩ := by
  cases length with
  | none => exact Interface.read?_text hx
  | some p => exact Interface.read?_text_length hx (hlength p rfl)

/-- An address with a length of more bits than it has is no interface. -/
theorem read?_addressText_of_lt
    {x : Address} {p : Nat}
    (hx : x.InRange)
    (hlength : x.family.bits < p) :
    Interface.read? (Network.addressText x (some p)) = none := by
  have hbits : Interface.bitLength? x.family (Nat.toDigits 10 p) = none := by
    simp [Interface.bitLength?, Nat.not_le.mpr hlength]
  -- Decimal digits are no mask either, which has dots.
  have hmask : Address.readV4? (Nat.toDigits 10 p) = none :=
    Address.readV4?_of_not_mem (Text.not_mem_toDigits (by decide) (by decide) (by decide))
  have hsuffix : Interface.length? x.family (Nat.toDigits 10 p) = none := by
    cases hfamily : x.family <;> rw [hfamily] at hbits <;> simp [Interface.length?, hbits, hmask]
  rw [Network.addressText, Interface.read?, Interface.readChars?, Interface.fields_text_length]
  simp [Address.readChars?_text hx, hsuffix]

namespace Network

/-- The addresses of the static range are of version 4, and the subnet is of version 6
and longer than they are. -/
def IsOverlong (n : Network) : Prop :=
  ∃ a b i, n.ends? = some (a, b) ∧ a.family = .v4 ∧
    Interface.read? n.subnet = some i ∧ i.address.family = .v6 ∧
    '/' ∈ n.subnet.toList ∧ 32 < i.length

/-- The length of any other subnet fits the addresses of the static range. -/
theorem le_bits_of_not_isOverlong
    {n : Network} {x : Address} {length : Option Nat}
    (hlong : ¬ n.IsOverlong)
    (hx : n.InStaticRange x)
    (hlength : subnetLength? n.subnet = .ok length) :
    ∀ p, length = some p → p ≤ x.family.bits := by
  rintro p rfl
  obtain ⟨a, b, hends, hfamily, -⟩ := hx
  unfold subnetLength? at hlength
  split at hlength
  · rename_i hslash
    split at hlength
    · rename_i i hi
      simp only [Except.ok.injEq, Option.some.injEq] at hlength
      subst hlength
      have hle := Interface.length_le_of_read? hi
      by_contra hlt
      have hfour : x.family = .v4 ∧ i.address.family = .v6 := by
        cases hxfamily : x.family <;> cases hifamily : i.address.family <;>
          simp only [hxfamily, hifamily, Family.bits] at hle hlt <;> first | omega | simp
      rw [hfour.1] at hlt
      refine hlong ⟨a, b, i, hends, hfamily ▸ hfour.1, hi, hfour.2, by simpa using hslash, ?_⟩
      simpa [Family.bits] using hlt
    · simp at hlength
  · simp at hlength

theorem IsOverlong.bits_lt
    {n : Network} {x : Address} {length : Option Nat}
    (h : n.IsOverlong)
    (hx : n.InStaticRange x)
    (hlength : subnetLength? n.subnet = .ok length) :
    ∃ p, length = some p ∧ x.family = .v4 ∧ x.family.bits < p := by
  obtain ⟨a, b, i, hends, hfour, hi, -, hslash, hlong⟩ := h
  obtain ⟨hfamily, -⟩ := (inStaticRange_iff hends).mp hx
  rw [subnetLength?, if_pos (by simpa using hslash), hi, Except.ok.injEq] at hlength
  rw [hfamily, hfour]
  exact ⟨i.length, hlength.symm, rfl, hlong⟩

end Network

/-! ### Reserving an address -/

namespace Inventory

/-- What is expected of a request for the address of a token: an interface of the length of
the subnet, which is recorded, or that the network is not known or used up. -/
def AnswersAddress (inv : Inventory) (network token : String) : Prop :=
  (∃ n ∈ inv.networks, n.name = network ∧ ∃ text i,
      inv.reserveIp network token =
        .ok (text, { inv with reserved := inv.reserved.addIp text token }) ∧
      Interface.read? text = some i ∧
      ∀ p, subnetLength? n.subnet = .ok (some p) → i.length = p) ∨
    inv.reserveIp network token = .error (.networkNotFound network) ∨
    inv.reserveIp network token = .error (.addressesTaken network)

section

variable {inv : Inventory} {n : Network} {token : String}

theorem reserveIp_unknown
    {network : String}
    (hfresh : inv.reservedIp? token = none)
    (hunknown : ∀ n ∈ inv.networks, n.name ≠ network) :
    inv.reserveIp network token = .error (.networkNotFound network) := by
  have hnone : inv.network? network = none := by
    simpa [network?] using hunknown
  rw [reserveIp_eq hfresh, nextAddress, intervalOf, hnone]

theorem reserveIp_taken
    (hwell : inv.WellFormed)
    (hvalid : inv.Valid)
    (hfresh : inv.reservedIp? token = none)
    (hn : n ∈ inv.networks)
    (hnone : ∀ x, ¬ inv.IsFree n x) :
    inv.reserveIp n.name token = .error (.addressesTaken n.name) := by
  rcases nextAddress_cases hwell hvalid hn with
    ⟨free, -, -, -, -, hfree, -⟩ | ⟨hnext, -⟩
  · exact absurd hfree (hnone free)
  · rw [reserveIp_eq hfresh, hnext]

/-- Where the length of the subnet fits, the lowest free address is recorded with it. -/
theorem reserveIp_fitting
    {x : Address}
    (hwell : inv.WellFormed)
    (hvalid : inv.Valid)
    (hfresh : inv.reservedIp? token = none)
    (hn : n ∈ inv.networks)
    (hx : inv.IsFree n x)
    (hlong : ¬ n.IsOverlong) :
    ∃ free length, inv.IsFree n free ∧ (∀ y, inv.IsFree n y → free.number ≤ y.number) ∧
      subnetLength? n.subnet = .ok length ∧
      Interface.read? (Network.addressText free length) =
        some ⟨free, length.getD free.family.bits⟩ ∧
      inv.reserveIp n.name token = .ok (Network.addressText free length,
        { inv with reserved := inv.reserved.addIp (Network.addressText free length) token }) := by
  rcases nextAddress_cases hwell hvalid hn with
    ⟨free, length, hnext, hlength, hrange, hfree, hlowest⟩ | ⟨-, hnone⟩
  · have hread := read?_addressText_of_le hrange
      (Network.le_bits_of_not_isOverlong hlong hfree.inRange hlength)
    refine ⟨free, length, hfree, hlowest, hlength, hread, ?_⟩
    rw [reserveIp_eq hfresh, hnext]
    simp [hread]
  · exact absurd hx (hnone x)

/-- Where it does not, the text of the lowest free address is refused. -/
theorem reserveIp_overlong
    {x : Address}
    (hwell : inv.WellFormed)
    (hvalid : inv.Valid)
    (hfresh : inv.reservedIp? token = none)
    (hn : n ∈ inv.networks)
    (hx : inv.IsFree n x)
    (hlong : n.IsOverlong) :
    ∃ free p, inv.IsFree n free ∧ (∀ y, inv.IsFree n y → free.number ≤ y.number) ∧
      free.family = .v4 ∧ 32 < p ∧ subnetLength? n.subnet = .ok (some p) ∧
      inv.reserveIp n.name token = .error (.record [⟨[.key "ip"],
        .rule (notAnAddress .interface (free.text ++ "/" ++ toString p))⟩]) := by
  rcases nextAddress_cases hwell hvalid hn with
    ⟨free, length, hnext, hlength, hrange, hfree, hlowest⟩ | ⟨-, hnone⟩
  · obtain ⟨p, rfl, hfour, hlt⟩ := hlong.bits_lt hfree.inRange hlength
    have hread := read?_addressText_of_lt hrange hlt
    rw [hfour] at hlt
    refine ⟨free, p, hfree, hlowest, hfour, hlt, hlength, ?_⟩
    rw [reserveIp_eq hfresh, hnext]
    simp only [hread, Option.isSome_none, Bool.false_eq_true, if_false]
    rfl
  · exact absurd hx (hnone x)

end

/-- In an inventory that was read, a request for the address of a token without one is
answered as expected, unless it is for a network that has a free address of version 4 and
a subnet of version 6 of more than 32 bits; then, and only then, the lowest free address
of the network is refused when it is recorded with the length of the subnet. -/
theorem answersAddress_iff
    {v : Value} {inv : Inventory} {network token : String}
    (h : Inventory.ofValue v = .ok inv)
    (hfresh : inv.reservedIp? token = none) :
    (inv.AnswersAddress network token ↔
      ∀ n ∈ inv.networks, n.name = network → ¬ n.IsOverlong ∨ ∀ x, ¬ inv.IsFree n x) ∧
    (¬ inv.AnswersAddress network token → ∃ n ∈ inv.networks, n.name = network ∧
      ∃ free p, inv.IsFree n free ∧ (∀ y, inv.IsFree n y → free.number ≤ y.number) ∧
        free.family = .v4 ∧ 32 < p ∧ subnetLength? n.subnet = .ok (some p) ∧
        inv.reserveIp network token = .error (.record [⟨[.key "ip"],
          .rule (notAnAddress .interface (free.text ++ "/" ++ toString p))⟩])) := by
  have hwell := wellFormed_of_ofValue h
  have hvalid := valid_of_ofValue h
  -- The names are distinct, so that one network at most is asked for.
  by_cases hknown : ∃ n ∈ inv.networks, n.name = network
  · obtain ⟨n, hn, rfl⟩ := hknown
    have hunique : ∀ m ∈ inv.networks, m.name = n.name → m = n := by
      intro m hm hname
      have := network?_eq_some hvalid.networks_nodup hm
      rw [hname, network?_eq_some hvalid.networks_nodup hn] at this
      exact (Option.some.inj this).symm
    by_cases hfree : ∃ x, inv.IsFree n x
    · obtain ⟨x, hx⟩ := hfree
      by_cases hlong : n.IsOverlong
      · obtain ⟨free, p, hfree, hlowest, hfour, hp, hlength, hrefused⟩ :=
          reserveIp_overlong hwell hvalid hfresh hn hx hlong
        have hnot : ¬ inv.AnswersAddress n.name token := by
          rintro (⟨-, -, -, text, i, hok, -⟩ | hok | hok) <;> simp [hrefused] at hok
        refine ⟨⟨fun hanswers => absurd hanswers hnot, fun hall => ?_⟩,
          fun _ => ⟨n, hn, rfl, free, p, hfree, hlowest, hfour, hp, hlength, hrefused⟩⟩
        rcases hall n hn rfl with hshort | hnone
        · exact absurd hlong hshort
        · exact absurd hx (hnone x)
      · obtain ⟨free, length, -, -, hlength, hread, hok⟩ :=
          reserveIp_fitting hwell hvalid hfresh hn hx hlong
        have hanswers : inv.AnswersAddress n.name token := by
          refine .inl ⟨n, hn, rfl, _, _, hok, hread, fun p hp => ?_⟩
          rw [hlength, Except.ok.injEq] at hp
          simp [hp]
        refine ⟨⟨fun _ m hm hname => .inl (hunique m hm hname ▸ hlong), fun _ => hanswers⟩,
          fun hnot => absurd hanswers hnot⟩
    · have hnone : ∀ x, ¬ inv.IsFree n x := not_exists.mp hfree
      have hanswers : inv.AnswersAddress n.name token :=
        .inr (.inr (reserveIp_taken hwell hvalid hfresh hn hnone))
      exact ⟨⟨fun _ m hm hname => .inr (hunique m hm hname ▸ hnone), fun _ => hanswers⟩,
        fun hnot => absurd hanswers hnot⟩
  · have hunknown : ∀ n ∈ inv.networks, n.name ≠ network := by simpa using hknown
    have hanswers : inv.AnswersAddress network token :=
      .inr (.inl (reserveIp_unknown hfresh hunknown))
    exact ⟨⟨fun _ n hn hname => absurd hname (hunknown n hn), fun _ => hanswers⟩,
      fun hnot => absurd hanswers hnot⟩

/-- The small inventory has a subnet that fits, so that its network gives an address. -/
theorem answersAddress_iff_sample :
    ofValue (sampleDocument (.int 1)) = .ok (sampleInventory (.int 1)) ∧
    (sampleInventory (.int 1)).AnswersAddress "lan" "ip:lan:web" := by
  refine ⟨ofValue_sampleDocument _,
    (answersAddress_iff (ofValue_sampleDocument (.int 1)) rfl).1.mpr ?_⟩
  rintro n hn -
  left
  rintro ⟨a, b, i, -, -, hread, hsix, -⟩
  rw [List.mem_singleton.mp hn] at hread
  have hsubnet : Interface.read? "10.0.0.0/24" = some ⟨⟨.v4, 167772160⟩, 24⟩ := by decide
  rw [hsubnet, Option.some.injEq] at hread
  subst hread
  cases hsix

/-- The document of an inventory whose network has addresses of version 4 and a subnet of
version 6. -/
def overlongDocument : Value :=
  .object
    [("networks", .list
      [.object
        [("dns", .str "10.0.0.1"), ("gateway", .str "10.0.0.1"), ("name", .str "lan"),
         ("static_range", .object [("end", .str "10.0.0.9"), ("start", .str "10.0.0.2")]),
         ("subnet", .str "fd00::/64")]]),
     ("proxmox", .object
      [("api_token", .str "secret"), ("api_user", .str "root@pam!run"),
       ("endpoint", .str "https://pve:8006"), ("node", .str "pve")]),
     ("terraform", .object
      [("backend", .object [("config", .object []), ("type", .str "local")])])]

/-- The network of that inventory. -/
def overlongNetwork : Network :=
  ⟨"lan", "fd00::/64", "10.0.0.1", "10.0.0.1", some ⟨some "10.0.0.2", some "10.0.0.9", []⟩,
    none, none, none, []⟩

/-- The inventory of that document. -/
def overlongInventory : Inventory :=
  { sampleInventory (.int 1) with networks := [overlongNetwork], extra := [] }

theorem isOverlong_overlongNetwork :
    overlongNetwork.IsOverlong := by
  refine ⟨⟨.v4, 167772162⟩, ⟨.v4, 167772169⟩,
    ⟨⟨.v6, 336294682933583715844663186250927177728⟩, 64⟩, by decide, rfl, ?_, rfl, by decide,
    by decide⟩
  decide

/-- The inventory is accepted, and the first request for an address of its network is
refused when the address is recorded: it is not that the network is unknown or used up. -/
theorem refused_on_overlong_subnet :
    ofValue overlongDocument = .ok overlongInventory ∧
    overlongInventory.reservedIp? "ip:lan:web" = none ∧
    (∃ reason, overlongInventory.reserveIp "lan" "ip:lan:web" =
      .error (.record [⟨[.key "ip"], .rule reason⟩])) ∧
    ¬ overlongInventory.AnswersAddress "lan" "ip:lan:web" := by
  have hread : ofValue overlongDocument = .ok overlongInventory := rfl
  have hfresh : overlongInventory.reservedIp? "ip:lan:web" = none := rfl
  have hfree : overlongInventory.IsFree overlongNetwork ⟨.v4, 167772162⟩ := by
    refine ⟨⟨⟨.v4, 167772162⟩, ⟨.v4, 167772169⟩, by decide, rfl, by decide, by decide⟩, ?_⟩
    simp only [UsesAddress, Network.IsOwn]
    decide
  obtain ⟨free, p, -, -, -, -, -, hrefused⟩ :=
    reserveIp_overlong (wellFormed_of_ofValue hread) (valid_of_ofValue hread) hfresh
      List.mem_cons_self hfree isOverlong_overlongNetwork
  have hname : overlongNetwork.name = "lan" := rfl
  rw [hname] at hrefused
  refine ⟨hread, hfresh, ⟨_, hrefused⟩, ?_⟩
  rintro (⟨-, -, -, text, i, hok, -⟩ | hok | hok) <;> simp [hrefused] at hok

end Inventory
end Homelab
