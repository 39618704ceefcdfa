import Homelab.Proofs.Allocation.Subnet

/-!
# Texts of addresses

What is written for an address, bare or with a length that its family has, is accepted wherever an
interface may stand, and is the address again for all that read it: on its own, and among the texts
that count as taken on a network.  There it takes the number of the address in its family and
nothing in the other one.
-/

namespace Homelab

/-- An address as it can be written: its number fits its family, and so does the length, if there is
one. -/
structure Address.Writable (a : Address) (length : Option Nat) : Prop where
  number : a.number < 2 ^ a.family.bits
  length : ∀ p, length = some p → p ≤ a.family.bits

namespace Address.Writable

variable {a b : Address} {length length' : Option Nat}

theorem read?_eq
    (h : a.Writable length) :
    Interface.read? (Network.addressText a length) = some ⟨a, length.getD a.family.bits⟩ :=
  read?_addressText_of_le h.number h.length

theorem addressOf?_eq
    (h : a.Writable length) :
    addressOf? (Network.addressText a length) = some a := by
  rw [addressOf?, h.read?_eq]
  rfl

theorem addressRule_eq
    (h : a.Writable length) :
    addressRule .interface (Network.addressText a length) = none := by
  simp [addressRule, h.read?_eq]

end Address.Writable

namespace Inventory

/-- The numbers of one family that some texts take. -/
def numbersTaken (texts : List String) (family : Family) : List Nat :=
  ((texts.filterMap addressOf?).filter fun a => a.family = family).map Address.number

theorem takenNumbers_eq
    (inv : Inventory) (network : String) (family : Family) :
    inv.takenNumbers network family = numbersTaken (inv.claimedTexts network) family := rfl

theorem numbersTaken_append
    (before after : List String) (family : Family) :
    numbersTaken (before ++ after) family =
      numbersTaken before family ++ numbersTaken after family := by
  simp [numbersTaken]

/-- One text takes the number of its address in the family of the address. -/
theorem numbersTaken_singleton
    {s : String} {a : Address}
    (h : addressOf? s = some a)
    (family : Family) :
    numbersTaken [s] family = if a.family = family then [a.number] else [] := by
  by_cases hfamily : a.family = family <;> simp [numbersTaken, h, hfamily]

theorem takenNumbers_of_claimedTexts
    {inv : Inventory} {network s : String} {before after : List String} {a : Address}
    (h : addressOf? s = some a)
    (htexts : inv.claimedTexts network = before ++ s :: after)
    (family : Family) :
    inv.takenNumbers network family =
      numbersTaken before family ++ (if a.family = family then [a.number] else []) ++
        numbersTaken after family := by
  have hsplit : before ++ s :: after = before ++ [s] ++ after := by simp
  rw [takenNumbers_eq, htexts, hsplit, numbersTaken_append, numbersTaken_append,
    numbersTaken_singleton h]

theorem not_mem_unreadableAddresses
    {inv : Inventory} {network s : String} {a : Address}
    (h : addressOf? s = some a) :
    s ∉ inv.unreadableAddresses network := by
  simp [unreadableAddresses, h]

end Inventory

/-- What is written for an address is accepted as an interface and is read back as the address, also
among the texts that count as taken on a network: it takes the number of the address in its family,
and nothing else is taken for it or passed over.  So two such texts stand for one address exactly if
the families and the numbers are the same. -/
theorem addressText_read_back
    {a b : Address} {length length' : Option Nat}
    (ha : a.Writable length)
    (hb : b.Writable length') :
    addressRule .interface (Network.addressText a length) = none ∧
    Interface.read? (Network.addressText a length) = some ⟨a, length.getD a.family.bits⟩ ∧
    addressOf? (Network.addressText a length) = some a ∧
    (∀ (inv : Inventory) (network : String) (before after : List String),
      inv.claimedTexts network = before ++ Network.addressText a length :: after →
      (∀ family, inv.takenNumbers network family =
        Inventory.numbersTaken before family ++
          (if a.family = family then [a.number] else []) ++
          Inventory.numbersTaken after family) ∧
      Network.addressText a length ∉ inv.unreadableAddresses network) ∧
    (addressOf? (Network.addressText a length) = addressOf? (Network.addressText b length') ↔
      a.family = b.family ∧ a.number = b.number) := by
  refine ⟨ha.addressRule_eq, ha.read?_eq, ha.addressOf?_eq, ?_, ?_⟩
  · intro inv network before after htexts
    exact ⟨Inventory.takenNumbers_of_claimedTexts ha.addressOf?_eq htexts,
      Inventory.not_mem_unreadableAddresses ha.addressOf?_eq⟩
  · rw [ha.addressOf?_eq, hb.addressOf?_eq, Option.some_inj]
    constructor
    · rintro rfl
      exact ⟨rfl, rfl⟩
    · rintro ⟨hfamily, hnumber⟩
      cases a
      cases b
      simp_all

/-- An address of version 6 with two runs of two groups that are zero. -/
def twoRuns : Address := ⟨.v6, 0x20010db8000000000001000000000001⟩

/-- The small inventory with an address that is reserved. -/
def inventoryWith (text : String) : Inventory :=
  { sampleInventory (.int 1) with reserved := ⟨[], [⟨text, "ip:lan:web", []⟩], []⟩ }

theorem addressText_read_back_sample :
    let text := Network.addressText twoRuns (some 64)
    text = "2001:db8::1:0:0:1/64" ∧ Interface.read? text = some ⟨twoRuns, 64⟩ ∧
      (inventoryWith text).takenNumbers "lan" .v6 = [twoRuns.number] ∧
      text ∉ (inventoryWith text).unreadableAddresses "lan" ∧
      addressOf? text ≠ addressOf? (Network.addressText ⟨.v4, 0⟩ none) := by
  intro text
  have hruns : twoRuns.Writable (some 64) := ⟨by decide, by decide⟩
  have hzero : Address.Writable ⟨.v4, 0⟩ none := ⟨by decide, by decide⟩
  obtain ⟨-, hread, -, htaken, hsame⟩ := addressText_read_back hruns hzero
  obtain ⟨hnumbers, hreadable⟩ :=
    htaken (inventoryWith text) "lan" ["10.0.0.1", "10.0.0.1"] [] rfl
  refine ⟨by decide, hread, ?_, hreadable, mt hsame.mp (by decide)⟩
  rw [hnumbers]
  decide

end Homelab
