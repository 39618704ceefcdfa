import Homelab.Allocation
import Homelab.Proofs.Address.Version6

/-!
# Addresses as text

The canonical text of an address is read back as the address, bare or with a length
after a slash, and what is read as an address is in the range of its family.  So two
texts of addresses are the same only if the addresses are.
-/

namespace Homelab

open Text

namespace Address

/-- The number of an address has no more bits than its family. -/
def InRange (a : Address) : Prop := a.number < 2 ^ a.family.bits

/-! ### Reading gives addresses in range -/

theorem groups?_spec
    {parts : List (List Char)} {gs : List Nat}
    (h : groups? parts = some gs) :
    gs.length = 8 ∧ ∀ g ∈ gs, g < 65536 := by
  have hread : ∀ {parts : List (List Char)} {gs : List Nat},
      parts.mapM group? = some gs → gs.length = parts.length ∧ ∀ g ∈ gs, g < 65536 := by
    intro parts gs hgs
    obtain ⟨hlen, hmem⟩ := mapM_eq_some hgs
    refine ⟨hlen, ?_⟩
    intro g hg
    obtain ⟨piece, -, hpiece⟩ := hmem g hg
    exact group?_lt hpiece
  unfold groups? at h
  split at h
  · split at h
    · rename_i hlen
      obtain ⟨hlen', hmem⟩ := hread h
      exact ⟨hlen'.trans hlen, hmem⟩
    · simp at h
  · split at h
    · rename_i before behind hbefore hbehind
      split at h
      · simp only [Option.some.injEq] at h
        subst h
        refine ⟨by simp; omega, ?_⟩
        intro g hg
        simp only [List.mem_append, List.mem_replicate] at hg
        rcases hg with (hg | hg) | hg
        · exact (hread hbefore).2 g hg
        · omega
        · exact (hread hbehind).2 g hg
      · simp at h
    · simp at h

theorem readV6?_lt
    {cs : List Char} {n : Nat}
    (h : readV6? cs = some n) :
    n < 2 ^ 128 := by
  simp only [readV6?, Option.bind_eq_bind, Option.bind_eq_some_iff] at h
  obtain ⟨plain, -, h⟩ := h
  split at h
  · simp at h
  · simp only [Option.bind_eq_some_iff] at h
    obtain ⟨parts, -, gs, hgs, h⟩ := h
    simp only [Option.some.injEq] at h
    obtain ⟨hlen, hmem⟩ := groups?_spec hgs
    have hlt := ofGroups_lt hmem
    rw [hlen] at hlt
    omega

/-- An address that is read is in the range of its family. -/
theorem readChars?_inRange
    {cs : List Char} {a : Address}
    (h : readChars? cs = some a) :
    a.InRange := by
  unfold readChars? at h
  split at h
  · rename_i n hn
    simp only [Option.some.injEq] at h
    subst h
    exact readV4?_lt hn
  · split at h
    · simp at h
    · simp only [Option.map_eq_some_iff] at h
      obtain ⟨n, hn, rfl⟩ := h
      exact readV6?_lt hn

/-! ### Addresses have no length -/

theorem not_mem_of_octet?
    {c : Char} {piece : List Char} {n : Nat}
    (hc : isAsciiDigit c = false)
    (h : octet? piece = some n) :
    c ∉ piece := by
  intro hmem
  have hall : piece.all isAsciiDigit = false := by
    rw [List.all_eq_false]
    exact ⟨c, hmem, by simp [hc]⟩
  simp [octet?, hall] at h

theorem not_mem_of_readV4?
    {c : Char} {cs : List Char} {n : Nat}
    (hdot : c ≠ '.') (hc : isAsciiDigit c = false)
    (h : readV4? cs = some n) :
    c ∉ cs := by
  intro hmem
  obtain ⟨piece, hpiece, hcpiece⟩ := exists_mem_fields hdot hmem
  unfold readV4? at h
  split at h
  · rename_i octets hoctets
    obtain ⟨octet, hoctet⟩ := mapM_all_some hoctets piece hpiece
    exact not_mem_of_octet? hc hoctet hcpiece
  · simp at h

/-- An address is written without a length. -/
theorem slash_not_mem_of_readChars?
    {cs : List Char} {a : Address}
    (h : readChars? cs = some a) :
    '/' ∉ cs := by
  unfold readChars? at h
  split at h
  · rename_i n hn
    exact not_mem_of_readV4? (by decide) (by decide) hn
  · split at h
    · simp at h
    · rename_i hslash
      simpa using hslash

/-! ### The text is read back -/

theorem text_v4
    (n : Nat) :
    (text ⟨.v4, n⟩).toList = octetsText n := by
  simp [text, octetsText]

theorem text_v6
    (n : Nat) :
    (text ⟨.v6, n⟩).toList = groupsText (groups n) := by
  simp [text]

theorem not_mem_text
    {c : Char}
    (hdot : c ≠ '.') (hcolon : c ≠ ':')
    (hc : isHexDigit c = false)
    (a : Address) :
    c ∉ a.text.toList := by
  obtain ⟨family, n⟩ := a
  cases family with
  | v4 =>
      rw [text_v4]
      exact not_mem_octetsText hdot hc n
  | v6 =>
      rw [text_v6]
      exact not_mem_groupsText hcolon hc _

theorem readV6?_groupsText
    {n : Nat}
    (hn : n < 2 ^ 128) :
    readV6? (groupsText (groups n)) = some n := by
  obtain ⟨parts, hfields, hlen, htail, hgroups⟩ :=
    groups?_fields_groupsText (groups n) rfl (fun g hg => groups_lt hg)
  have hzone : dropZone? (groupsText (groups n)) = some (groupsText (groups n)) := by
    rw [dropZone?, cut?_of_not_mem (not_mem_groupsText (by decide) (by decide) _)]
  have hmany : ¬ parts.length < 3 := by omega
  simp [readV6?, hzone, hfields, hmany, htail, hgroups, ofGroups_groups hn]

/-- An address is read back from its text. -/
theorem readChars?_text
    {a : Address}
    (ha : a.InRange) :
    readChars? a.text.toList = some a := by
  obtain ⟨family, n⟩ := a
  cases family with
  | v4 =>
      rw [text_v4, readChars?, readV4?_octetsText ha]
  | v6 =>
      have hslash : '/' ∉ groupsText (groups n) :=
        not_mem_groupsText (by decide) (by decide) _
      have hdot : '.' ∉ groupsText (groups n) :=
        not_mem_groupsText (by decide) (by decide) _
      rw [text_v6, readChars?, readV4?_of_not_mem hdot, readV6?_groupsText ha]
      simp [hslash]

theorem read?_text
    {a : Address}
    (ha : a.InRange) :
    read? a.text = some a :=
  readChars?_text ha

end Address

namespace Interface

open Address

/-- A bare address is an interface of full length. -/
theorem read?_text
    {a : Address}
    (ha : a.InRange) :
    read? a.text = some ⟨a, a.family.bits⟩ := by
  have hslash : '/' ∉ a.text.toList := not_mem_text (by decide) (by decide) (by decide) a
  simp [read?, readChars?, fields_of_not_mem hslash, readChars?_text ha]

theorem fields_text_length
    (a : Address) (p : Nat) :
    fields '/' (a.text ++ "/" ++ toString p).toList = [a.text.toList, Nat.toDigits 10 p] := by
  have hslash : '/' ∉ a.text.toList := not_mem_text (by decide) (by decide) (by decide) a
  have hdigits : '/' ∉ Nat.toDigits 10 p := not_mem_toDigits (by decide) (by decide) (by decide)
  have hlist : (a.text ++ "/" ++ toString p).toList = a.text.toList ++ '/' :: Nat.toDigits 10 p := by
    simp
  rw [hlist, fields_append_sep, fields_of_not_mem hslash, fields_of_not_mem hdigits]
  rfl

theorem bitLength?_toDigits
    {family : Family} {p : Nat}
    (hp : p ≤ family.bits) :
    bitLength? family (Nat.toDigits 10 p) = some p := by
  have hall : (Nat.toDigits 10 p).all isAsciiDigit = true := by
    rw [List.all_eq_true]
    intro c hc
    exact isAsciiDigit_of_mem_toDigits hc
  have hempty : (Nat.toDigits 10 p).isEmpty = false := by simp
  simp [bitLength?, hall, hempty, hp]

/-- An address with a length is read back with both. -/
theorem read?_text_length
    {a : Address} {p : Nat}
    (ha : a.InRange)
    (hp : p ≤ a.family.bits) :
    read? (a.text ++ "/" ++ toString p) = some ⟨a, p⟩ := by
  rw [read?, readChars?, fields_text_length]
  simp [readChars?_text ha, length?, bitLength?_toDigits hp]

theorem maskLength?_le
    {mask n : Nat}
    (h : maskLength? mask = some n) :
    n ≤ 32 := by
  have hmem := List.mem_of_find?_eq_some h
  simp only [List.mem_range] at hmem
  omega

theorem length?_le
    {family : Family} {cs : List Char} {n : Nat}
    (h : length? family cs = some n) :
    n ≤ family.bits := by
  unfold length? at h
  split at h
  · rename_i bits hbits
    simp only [Option.some.injEq] at h
    subst h
    unfold bitLength? at hbits
    split at hbits
    · simp at hbits
    · simp only [Option.ite_none_right_eq_some, Option.some.injEq] at hbits
      omega
  · split at h
    · simp at h
    · split at h
      · simp at h
      · split at h
        · rename_i hmask
          simp only [Option.some.injEq] at h
          exact h ▸ maskLength?_le hmask
        · exact maskLength?_le h

/-- The length that is read with an address is no more than the width of its family. -/
theorem length_le_of_read?
    {s : String} {i : Interface}
    (h : read? s = some i) :
    i.length ≤ i.address.family.bits := by
  unfold read? readChars? at h
  split at h
  · simp only [Option.map_eq_some_iff] at h
    obtain ⟨a, -, rfl⟩ := h
    exact Nat.le_refl _
  · simp only [Option.bind_eq_bind, Option.bind_eq_some_iff] at h
    obtain ⟨a, -, n, hn, h⟩ := h
    simp only [Option.some.injEq] at h
    subst h
    exact length?_le hn
  · simp at h

/-- Whatever stands behind the slash, the address in front of it is the one that was
written, if there is one. -/
theorem address_of_read?_text_length
    {a : Address} {p : Nat} {i : Interface}
    (ha : a.InRange)
    (h : read? (a.text ++ "/" ++ toString p) = some i) :
    i.address = a := by
  rw [read?, readChars?, fields_text_length] at h
  simp only [readChars?_text ha, Option.bind_eq_bind, Option.bind_some,
    Option.bind_eq_some_iff] at h
  obtain ⟨n, -, h⟩ := h
  simp only [Option.some.injEq] at h
  rw [← h]

end Interface

theorem addressOf?_inRange
    {s : String} {a : Address}
    (h : addressOf? s = some a) :
    a.InRange := by
  simp only [addressOf?, Option.map_eq_some_iff] at h
  obtain ⟨i, hi, rfl⟩ := h
  unfold Interface.read? Interface.readChars? at hi
  split at hi
  · simp only [Option.map_eq_some_iff] at hi
    obtain ⟨a, ha, rfl⟩ := hi
    exact Address.readChars?_inRange ha
  · simp only [Option.bind_eq_bind, Option.bind_eq_some_iff] at hi
    obtain ⟨a, ha, n, -, hi⟩ := hi
    simp only [Option.some.injEq] at hi
    subst hi
    exact Address.readChars?_inRange ha
  · simp at hi

/-- An address is its own address part. -/
theorem addressOf?_of_read?
    {s : String} {a : Address}
    (h : Address.read? s = some a) :
    addressOf? s = some a := by
  have hslash : '/' ∉ s.toList := Address.slash_not_mem_of_readChars? h
  have hread : Address.readChars? s.toList = some a := h
  simp [addressOf?, Interface.read?, Interface.readChars?, Text.fields_of_not_mem hslash, hread]

/-- The part of an allocated text before any slash is the address. -/
theorem readChars?_takeWhile_addressText
    {a : Address}
    (ha : a.InRange)
    (length : Option Nat) :
    Address.readChars? ((Network.addressText a length).toList.takeWhile (· ≠ '/')) = some a := by
  have hslash : '/' ∉ a.text.toList :=
    Address.not_mem_text (by decide) (by decide) (by decide) a
  have hfree : ∀ c ∈ a.text.toList, decide (c ≠ '/') = true := by
    intro c hc
    simp only [decide_eq_true_eq]
    rintro rfl
    exact hslash hc
  have hpart : (Network.addressText a length).toList.takeWhile (· ≠ '/') = a.text.toList := by
    cases length with
    | none =>
        have hwhole : (a.text.toList ++ []).takeWhile (· ≠ '/') = a.text.toList ++ [] :=
          List.takeWhile_append_of_pos hfree
        rwa [List.append_nil] at hwhole
    | some p =>
        have hlist : (a.text ++ "/" ++ toString p).toList =
            a.text.toList ++ '/' :: Nat.toDigits 10 p := by
          simp
        rw [Network.addressText, hlist, List.takeWhile_append_of_pos hfree]
        simp
  rw [hpart, Address.readChars?_text ha]

/-- The text that an allocation gives is read back as its address, if it is one. -/
theorem addressOf?_addressText
    {a : Address} {length : Option Nat}
    (ha : a.InRange)
    (h : (Interface.read? (Network.addressText a length)).isSome) :
    addressOf? (Network.addressText a length) = some a := by
  obtain ⟨i, hi⟩ := Option.isSome_iff_exists.mp h
  rw [addressOf?, hi]
  cases length with
  | none =>
      rw [Network.addressText, Interface.read?_text ha] at hi
      simp only [Option.some.injEq] at hi
      rw [← hi]
      rfl
  | some p =>
      rw [Network.addressText] at hi
      simp [Interface.address_of_read?_text_length ha hi]

end Homelab
