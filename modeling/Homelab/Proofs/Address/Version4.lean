import Homelab.Address.Reader
import Homelab.Proofs.Text.Digits
import Homelab.Proofs.Text.Fields

/-!
# Addresses of version 4

The four octets of an address are read back from their decimal digits.
-/

namespace Homelab
namespace Address

open Text

theorem octet?_repr
    {n : Nat}
    (hn : n < 256) :
    octet? (Nat.toDigits 10 n) = some n := by
  have hall : (Nat.toDigits 10 n).all isAsciiDigit = true := by
    rw [List.all_eq_true]
    intro c hc
    exact isAsciiDigit_of_mem_toDigits hc
  have hlen : (Nat.toDigits 10 n).length ≤ 3 :=
    (Nat.length_toDigits_le_iff (by decide) (by decide)).mpr (by omega)
  have hlead : (Nat.toDigits 10 n).head? = some '0' → (Nat.toDigits 10 n).length = 1 := by
    intro hhead
    by_cases hzero : n = 0
    · simp [hzero]
    · exact absurd hhead (head?_toDigits_eq_zero (by decide) hzero)
  have hempty : (Nat.toDigits 10 n).isEmpty = false := by
    cases h : Nat.toDigits 10 n with
    | nil => exact absurd h Nat.toDigits_ne_nil
    | cons c cs => rfl
  rw [octet?, if_neg, if_neg, natOfDigits_toDigits, if_pos (by omega)]
  · simpa using hlead
  · simpa [hempty, hall] using hlen

theorem octet?_lt
    {cs : List Char} {n : Nat}
    (h : octet? cs = some n) :
    n < 256 := by
  unfold octet? at h
  split at h
  · simp at h
  · split at h
    · simp at h
    · simp only at h
      split at h
      · simp only [Option.some.injEq] at h
        omega
      · simp at h

/-- The text of a version 4 number as a list of characters. -/
def octetsText (n : Nat) : List Char :=
  joined '.' ((octets n).map fun k => Nat.toDigits 10 k)

theorem ofOctets_octets
    {n : Nat}
    (hn : n < 2 ^ 32) :
    ((n / 2 ^ 24 % 256 * 256 + n / 2 ^ 16 % 256) * 256 + n / 2 ^ 8 % 256) * 256 + n % 256 = n := by
  omega

theorem not_mem_octetsText
    {c : Char}
    (hdot : c ≠ '.')
    (hc : isHexDigit c = false)
    (n : Nat) :
    c ∉ octetsText n := by
  refine not_mem_joined hdot ?_
  intro piece hpiece
  obtain ⟨k, -, rfl⟩ := List.mem_map.mp hpiece
  exact not_mem_toDigits (by decide) (by decide) hc

/-- A version 4 number is read back from its text. -/
theorem readV4?_octetsText
    {n : Nat}
    (hn : n < 2 ^ 32) :
    readV4? (octetsText n) = some n := by
  have hcut : fields '.' (octetsText n) = (octets n).map fun k => Nat.toDigits 10 k := by
    rw [octetsText, fields_joined]
    · simp [octets]
    · intro piece hpiece
      obtain ⟨k, -, rfl⟩ := List.mem_map.mp hpiece
      exact not_mem_toDigits (by decide) (by decide) (by decide)
  have hread : ((octets n).map fun k => Nat.toDigits 10 k).mapM octet? = some (octets n) := by
    refine mapM_map_eq_some ?_
    intro k hk
    have hk' : k < 256 := by
      simp only [octets, List.mem_cons, List.not_mem_nil, or_false] at hk
      omega
    exact octet?_repr hk'
  rw [readV4?, hcut, hread]
  simp only [octets, Nat.pow_eq]
  rw [ofOctets_octets hn]

theorem readV4?_lt
    {cs : List Char} {n : Nat}
    (h : readV4? cs = some n) :
    n < 2 ^ 32 := by
  unfold readV4? at h
  split at h
  · rename_i a b c d hoctets
    have hmem : ∀ k ∈ [a, b, c, d], k < 256 := by
      intro k hk
      obtain ⟨piece, -, hpiece⟩ := (mapM_eq_some hoctets).2 k hk
      exact octet?_lt hpiece
    have ha := hmem a (by simp)
    have hb := hmem b (by simp)
    have hc := hmem c (by simp)
    have hd := hmem d (by simp)
    simp only [Option.some.injEq] at h
    omega
  · simp at h

/-- A text without a dot is no address of version 4. -/
theorem readV4?_of_not_mem
    {cs : List Char}
    (h : '.' ∉ cs) :
    readV4? cs = none := by
  rw [readV4?, fields_of_not_mem h]
  cases hread : octet? cs with
  | none => simp [hread]
  | some n => simp [hread]

end Address
end Homelab
