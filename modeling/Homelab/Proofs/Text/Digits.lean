import Homelab.Text.Digit
import Mathlib.Algebra.Group.Nat.Defs

/-!
# Digits of a number

A number is written in a base of at most sixteen, and reading the digits gives the
number back.  Digits in base ten are read by `Text.natOfDigits`, digits in any base
by `Text.natOfBase`.
-/

namespace Homelab
namespace Text

/-! ### Base ten -/

theorem natOfDigits_eq
    (ds : List Char) :
    natOfDigits ds = Nat.ofDigitChars 10 ds 0 := by
  simp [natOfDigits, Nat.ofDigitChars, Nat.mul_comm]

/-- A number is read back from its digits. -/
@[simp] theorem natOfDigits_toDigits
    (n : Nat) :
    natOfDigits (Nat.toDigits 10 n) = n := by
  rw [natOfDigits_eq]
  exact Nat.ofDigitChars_ten_toDigits

theorem natOfDigits_append
    (front back : List Char) :
    natOfDigits (front ++ back) =
      natOfDigits front * 10 ^ back.length + natOfDigits back := by
  simp only [natOfDigits_eq]
  rw [Nat.ofDigitChars_append, Nat.ofDigitChars_eq_ofDigitChars_zero, Nat.mul_comm]

@[simp] theorem natOfDigits_zeros
    (k : Nat) :
    natOfDigits (List.replicate k '0') = 0 := by
  rw [natOfDigits_eq, Nat.ofDigitChars_replicate_zero, Nat.mul_zero]

theorem isAsciiDigit_eq
    (c : Char) :
    isAsciiDigit c = c.isDigit := by
  simp [isAsciiDigit, Char.isDigit, Char.le_def]

/-- A number is written in the ten digits of ASCII. -/
theorem isAsciiDigit_of_mem_toDigits
    {n : Nat} {c : Char}
    (hc : c ∈ Nat.toDigits 10 n) :
    isAsciiDigit c = true := by
  rw [isAsciiDigit_eq]
  exact Nat.isDigit_of_mem_toDigits (by decide) (by decide) hc

theorem digit_lt_ten
    {c : Char}
    (hc : isAsciiDigit c = true) :
    c.toNat - '0'.toNat < 10 := by
  simp only [isAsciiDigit, Bool.and_eq_true, decide_eq_true_eq, Char.le_def,
    UInt32.le_iff_toNat_le] at hc
  have hle : c.toNat ≤ 57 := hc.2
  have hzero : '0'.toNat = 48 := rfl
  omega

/-- A number of `k` digits is below `10 ^ k`. -/
theorem natOfDigits_lt
    (ds : List Char)
    (hds : ds.all isAsciiDigit = true) :
    natOfDigits ds < 10 ^ ds.length := by
  induction ds with
  | nil => simp [natOfDigits]
  | cons c rest ih =>
      simp only [List.all_cons, Bool.and_eq_true] at hds
      have hrest := ih hds.2
      have hc := digit_lt_ten hds.1
      have hsplit : natOfDigits (c :: rest) =
          natOfDigits [c] * 10 ^ rest.length + natOfDigits rest :=
        natOfDigits_append [c] rest
      have hone : natOfDigits [c] = c.toNat - '0'.toNat := by simp [natOfDigits]
      have hle : natOfDigits [c] * 10 ^ rest.length ≤ 9 * 10 ^ rest.length :=
        Nat.mul_le_mul_right _ (by omega)
      rw [hsplit, List.length_cons, Nat.pow_succ]
      omega

/-- Only zero begins with the digit zero. -/
theorem head?_toDigits_eq_zero
    {b n : Nat}
    (hb : 1 < b)
    (hn : n ≠ 0) :
    (Nat.toDigits b n).head? ≠ some '0' := by
  induction n using Nat.strongRecOn with
  | _ n ih =>
      by_cases hlt : n < b
      · rw [Nat.toDigits_of_lt_base hlt]
        simpa using hn
      · have hdiv : n / b ≠ 0 := by
          have := Nat.div_pos (Nat.le_of_not_lt hlt) (by omega)
          omega
        have hsmaller : n / b < n := Nat.div_lt_self (by omega) hb
        rw [Nat.toDigits_of_base_le hb (by omega)]
        have hfront := ih (n / b) hsmaller hdiv
        cases hds : Nat.toDigits b (n / b) with
        | nil => exact absurd hds Nat.toDigits_ne_nil
        | cons d ds =>
            rw [hds] at hfront
            simpa using hfront

/-! ### Bases up to sixteen -/

theorem hexValue_digitChar
    {d : Nat}
    (hd : d < 16) :
    hexValue (Nat.digitChar d) = some d := by
  have hall : ∀ d, d < 16 → hexValue (Nat.digitChar d) = some d := by decide
  exact hall d hd

theorem natOfBase_append_digit
    (b : Nat) (ds : List Char)
    {d : Nat}
    (hd : d < 16) :
    natOfBase b (ds ++ [Nat.digitChar d]) = natOfBase b ds * b + d := by
  simp [natOfBase, hexValue_digitChar hd]

/-- A number is read back from its digits, in any base up to sixteen. -/
theorem natOfBase_toDigits
    {b : Nat}
    (hb : 1 < b) (hb' : b ≤ 16)
    (n : Nat) :
    natOfBase b (Nat.toDigits b n) = n := by
  induction n using Nat.strongRecOn with
  | _ n ih =>
      by_cases hlt : n < b
      · rw [Nat.toDigits_of_lt_base hlt]
        simp [natOfBase, hexValue_digitChar (show n < 16 by omega)]
      · have hmod : n % b < 16 := Nat.lt_of_lt_of_le (Nat.mod_lt n (by omega)) hb'
        rw [Nat.toDigits_of_base_le hb (by omega), natOfBase_append_digit b _ hmod,
          ih (n / b) (Nat.div_lt_self (by omega) hb), Nat.mul_comm]
        exact Nat.div_add_mod n b

theorem isHexDigit_of_mem_toDigits
    {b n : Nat} {c : Char}
    (hb : 1 < b) (hb' : b ≤ 16)
    (hc : c ∈ Nat.toDigits b n) :
    isHexDigit c = true := by
  induction n using Nat.strongRecOn with
  | _ n ih =>
      by_cases hlt : n < b
      · rw [Nat.toDigits_of_lt_base hlt, List.mem_singleton] at hc
        rw [hc, isHexDigit, hexValue_digitChar (by omega)]
        rfl
      · rw [Nat.toDigits_of_base_le hb (by omega), List.mem_append] at hc
        rcases hc with hc | hc
        · exact ih (n / b) (Nat.div_lt_self (by omega) hb) hc
        · have hmod : n % b < 16 := Nat.lt_of_lt_of_le (Nat.mod_lt n (by omega)) hb'
          rw [List.mem_singleton] at hc
          rw [hc, isHexDigit, hexValue_digitChar hmod]
          rfl

theorem hexValue_lt
    {c : Char} {d : Nat}
    (hd : hexValue c = some d) :
    d < 16 := by
  simp only [hexValue, Char.le_def, UInt32.le_iff_toNat_le, Bool.and_eq_true,
    decide_eq_true_eq] at hd
  have h9 : '9'.val.toNat = 57 := rfl
  have hf : 'f'.val.toNat = 102 := rfl
  have hF : 'F'.val.toNat = 70 := rfl
  have h0 : '0'.toNat = 48 := rfl
  have ha : 'a'.toNat = 97 := rfl
  have hA : 'A'.toNat = 65 := rfl
  have hc : c.val.toNat = c.toNat := rfl
  split at hd
  · simp at hd; omega
  · split at hd
    · simp at hd; omega
    · split at hd
      · simp at hd; omega
      · simp at hd

/-- A number of `k` hexadecimal digits is below `16 ^ k`. -/
theorem natOfBase_lt
    (ds : List Char) :
    natOfBase 16 ds < 16 ^ ds.length := by
  have hgo : ∀ (ds : List Char) (start : Nat),
      ds.foldl (fun n c => n * 16 + (hexValue c).getD 0) start < (start + 1) * 16 ^ ds.length := by
    intro ds
    induction ds with
    | nil => intro start; simp
    | cons c rest ih =>
        intro start
        have hd : (hexValue c).getD 0 < 16 := by
          cases hv : hexValue c with
          | none => simp
          | some d => simpa using hexValue_lt hv
        have hnext := ih (start * 16 + (hexValue c).getD 0)
        have hle : (start * 16 + (hexValue c).getD 0 + 1) * 16 ^ rest.length ≤
            ((start + 1) * 16) * 16 ^ rest.length :=
          Nat.mul_le_mul_right _ (by omega)
        rw [List.foldl_cons, List.length_cons, Nat.pow_succ', ← Nat.mul_assoc]
        omega
  simpa [natOfBase] using hgo ds 0

/-- The digits of a number, in any base up to sixteen, hold no other character. -/
theorem not_mem_toDigits
    {b n : Nat} {c : Char}
    (hb : 1 < b) (hb' : b ≤ 16)
    (hc : isHexDigit c = false) :
    c ∉ Nat.toDigits b n := by
  intro hmem
  have htrue := isHexDigit_of_mem_toDigits hb hb' hmem
  rw [hc] at htrue
  exact Bool.false_ne_true htrue

end Text
end Homelab
