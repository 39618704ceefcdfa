import Homelab.HostAddress
import Homelab.Proofs.Address.RoundTrip

/-!
# The characters of an address

An address is written in hexadecimal digits, colons and dots, apart from the zone that one of
version 6 may have behind a percent sign.
-/

namespace Homelab

open Text HostAddress

/-! ### Classes of characters -/

theorem isHexDigit_of_isAsciiDigit
    {c : Char}
    (h : isAsciiDigit c = true) :
    isHexDigit c = true := by
  unfold isAsciiDigit at h
  rw [isHexDigit, hexValue, if_pos h]
  rfl

theorem isAddressChar_of_isHexDigit
    {c : Char}
    (h : isHexDigit c = true) :
    isAddressChar c = true := by
  simp [isAddressChar, h]

theorem toNat_of_isHexDigit
    {c : Char}
    (h : isHexDigit c = true) :
    48 ≤ c.toNat ∧ c.toNat ≤ 57 ∨ 97 ≤ c.toNat ∧ c.toNat ≤ 102 ∨ 65 ≤ c.toNat ∧ c.toNat ≤ 70 := by
  simp only [isHexDigit, hexValue, Char.le_def, UInt32.le_iff_toNat_le, Bool.and_eq_true,
    decide_eq_true_eq] at h
  have h9 : '9'.val.toNat = 57 := rfl
  have hf : 'f'.val.toNat = 102 := rfl
  have hF : 'F'.val.toNat = 70 := rfl
  have h0 : '0'.val.toNat = 48 := rfl
  have ha : 'a'.val.toNat = 97 := rfl
  have hA : 'A'.val.toNat = 65 := rfl
  have hc : c.val.toNat = c.toNat := rfl
  split at h
  · omega
  · split at h
    · omega
    · split at h
      · omega
      · simp at h

/-- No blank is a character of an address. -/
theorem isBlank_of_isAddressChar
    {c : Char}
    (h : isAddressChar c = true) :
    isBlank c = false := by
  have hrange : 46 ≤ c.toNat ∧ c.toNat ≤ 102 := by
    simp only [isAddressChar, Bool.or_eq_true, decide_eq_true_eq] at h
    rcases h with (h | rfl) | rfl
    · have hdigit := toNat_of_isHexDigit h
      omega
    · exact ⟨by decide, by decide⟩
    · exact ⟨by decide, by decide⟩
  simp only [isBlank, inRanges, blankRanges, List.any_eq_false, List.mem_cons, List.not_mem_nil,
    or_false, Bool.and_eq_true, decide_eq_true_eq]
  rintro r (rfl | rfl | rfl | rfl | rfl | rfl | rfl | rfl | rfl | rfl) <;> dsimp only <;> omega

namespace Address

/-! ### Addresses of version 4 -/

theorem isAddressChar_of_readV4?
    {cs : List Char} {n : Nat}
    (h : readV4? cs = some n) :
    ∀ c ∈ cs, isAddressChar c = true := by
  intro c hc
  by_cases hdot : c = '.'
  · rw [hdot]
    rfl
  · cases hdigit : isAsciiDigit c with
    | true => exact isAddressChar_of_isHexDigit (isHexDigit_of_isAsciiDigit hdigit)
    | false => exact absurd hc (not_mem_of_readV4? hdot hdigit h)

/-! ### Addresses of version 6 -/

theorem isHexDigit_of_group?
    {piece : List Char} {n : Nat}
    (h : group? piece = some n) :
    ∀ c ∈ piece, isHexDigit c = true := by
  unfold group? at h
  split at h
  · cases h
  · rename_i hplain
    simp only [Bool.or_eq_true, not_or, Bool.not_eq_true', Bool.not_eq_false] at hplain
    exact List.all_eq_true.mp hplain.1.2

theorem isHexDigit_of_mapM_group?
    {pieces : List (List Char)} {gs : List Nat}
    (h : pieces.mapM group? = some gs) :
    ∀ piece ∈ pieces, ∀ c ∈ piece, isHexDigit c = true := by
  intro piece hpiece
  obtain ⟨n, hn⟩ := mapM_all_some h piece hpiece
  exact isHexDigit_of_group? hn

/-- An empty piece beside the gap has no characters either. -/
theorem isHexDigit_of_trimEdge
    {pieces : List (List Char)} {gs : List Nat}
    (h : (trimEdge pieces).mapM group? = some gs) :
    ∀ piece ∈ pieces, ∀ c ∈ piece, isHexDigit c = true := by
  unfold trimEdge at h
  split at h
  · rename_i hedge
    rw [hedge]
    simp
  · exact isHexDigit_of_mapM_group? h

theorem getElem?_of_gap?
    {pieces : List (List Char)} {k : Nat}
    (h : gap? pieces = some k) :
    pieces[k]? = some [] := by
  simp only [gap?, Option.map_eq_some_iff] at h
  obtain ⟨i, hi, rfl⟩ := h
  obtain ⟨hlen, hempty, -⟩ := List.findIdx?_eq_some_iff_getElem.mp hi
  simp only [List.length_drop, List.length_dropLast] at hlen
  rw [List.getElem_drop, List.getElem_dropLast, List.isEmpty_iff] at hempty
  rw [List.getElem?_eq_getElem (by omega), ← hempty]
  congr 2
  omega

theorem isHexDigit_of_groups?
    {pieces : List (List Char)} {gs : List Nat}
    (h : groups? pieces = some gs) :
    ∀ piece ∈ pieces, ∀ c ∈ piece, isHexDigit c = true := by
  unfold groups? at h
  split at h
  · split at h
    · exact isHexDigit_of_mapM_group? h
    · cases h
  · rename_i k hgap
    split at h
    · rename_i before behind hbefore hbehind
      intro piece hpiece
      obtain ⟨i, hi⟩ := List.mem_iff_getElem?.mp hpiece
      -- The piece stands before the gap, is the gap, or stands behind it.
      rcases Nat.lt_trichotomy i k with hlt | rfl | hgt
      · refine isHexDigit_of_trimEdge hbefore piece (List.mem_iff_getElem?.mpr ⟨i, ?_⟩)
        rw [List.getElem?_take_of_lt hlt, hi]
      · rw [getElem?_of_gap? hgap] at hi
        obtain rfl := Option.some.inj hi
        simp
      · refine isHexDigit_of_trimEdge hbehind piece (List.mem_iff_getElem?.mpr ⟨i - (k + 1), ?_⟩)
        rw [List.getElem?_drop, ← hi]
        congr 1
        omega
    · cases h

theorem isAddressChar_of_splitTail?
    {pieces parts : List (List Char)} {gs : List Nat}
    (htail : splitTail? pieces = some parts)
    (hgroups : groups? parts = some gs) :
    ∀ piece ∈ pieces, ∀ c ∈ piece, isAddressChar c = true := by
  have hparts := isHexDigit_of_groups? hgroups
  have hplain : pieces = parts → ∀ piece ∈ pieces, ∀ c ∈ piece, isAddressChar c = true := by
    rintro rfl piece hpiece c hc
    exact isAddressChar_of_isHexDigit (hparts piece hpiece c hc)
  unfold splitTail? at htail
  split at htail
  · rename_i last hlast
    split at htail
    · obtain ⟨n, hn, rfl⟩ := Option.map_eq_some_iff.mp htail
      intro piece hpiece c hc
      have hpieces : pieces.dropLast ++ [last] = pieces := by
        obtain ⟨front, rfl⟩ := List.getLast?_eq_some_iff.mp hlast
        rw [List.dropLast_concat]
      rw [← hpieces, List.mem_append, List.mem_singleton] at hpiece
      rcases hpiece with hpiece | rfl
      · exact isAddressChar_of_isHexDigit (hparts piece (List.mem_append_left _ hpiece) c hc)
      · exact isAddressChar_of_readV4? hn c hc
    · exact hplain (Option.some.inj htail)
  · exact hplain (Option.some.inj htail)

theorem isAddressChar_of_readV6?
    {cs : List Char} {n : Nat}
    (hzone : '%' ∉ cs)
    (h : readV6? cs = some n) :
    ∀ c ∈ cs, isAddressChar c = true := by
  simp only [readV6?, Option.bind_eq_bind, Option.bind_eq_some_iff] at h
  obtain ⟨plain, hplain, h⟩ := h
  rw [dropZone?, cut?_of_not_mem hzone] at hplain
  obtain rfl := Option.some.inj hplain
  split at h
  · cases h
  · obtain ⟨parts, htail, gs, hgroups, -⟩ := by
      simpa only [Option.bind_eq_some_iff] using h
    intro c hc
    by_cases hcolon : c = ':'
    · rw [hcolon]
      rfl
    · obtain ⟨piece, hpiece, hmem⟩ := exists_mem_fields hcolon hc
      exact isAddressChar_of_splitTail? htail hgroups piece hpiece c hmem

/-- An address without a zone is written in the characters of addresses. -/
theorem isAddressChar_of_readChars?
    {cs : List Char} {a : Address}
    (hzone : '%' ∉ cs)
    (h : readChars? cs = some a) :
    ∀ c ∈ cs, isAddressChar c = true := by
  unfold readChars? at h
  split at h
  · rename_i n hn
    exact isAddressChar_of_readV4? hn
  · split at h
    · cases h
    · obtain ⟨n, hn, -⟩ := Option.map_eq_some_iff.mp h
      exact isAddressChar_of_readV6? hzone hn

end Address
end Homelab
