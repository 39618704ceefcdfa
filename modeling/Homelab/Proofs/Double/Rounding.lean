import Homelab.Double
import Mathlib.Algebra.Order.Field.Power
import Mathlib.Data.Rat.Cast.Order
import Mathlib.Tactic.FieldSimp
import Mathlib.Tactic.Linarith
import Mathlib.Tactic.NormNum
import Mathlib.Tactic.Positivity
import Mathlib.Tactic.Ring

/-!
# Rounding to the nearest binary number

A finite positive number is the nearest one to every fraction between the two midpoints
to its neighbours, and to the midpoints themselves if it is even.  Below a power of two
the neighbour is only half as far away as above.
-/

namespace Homelab
namespace Double

/-! ### Powers with negative exponents -/

theorem zpow_eq_div
    {b : ℚ}
    (hb : b ≠ 0)
    (z : ℤ) :
    b ^ z = b ^ z.toNat / b ^ (-z).toNat := by
  rw [eq_div_iff (pow_ne_zero _ hb), ← zpow_natCast, ← zpow_natCast, ← zpow_add₀ hb]
  congr 1
  omega

/-! ### Rounding to an integer -/

/-- The quotient is rounded to every integer that is nearest, where a tie is for the
even one. -/
theorem roundDiv_eq
    {num den k : Nat}
    (hden : 0 < den)
    (hlow : 2 * (k * den) ≤ 2 * num + den)
    (hhigh : 2 * num ≤ 2 * (k * den) + den)
    (htie : 2 * (k * den) = 2 * num + den ∨ 2 * num = 2 * (k * den) + den → k % 2 = 0) :
    roundDiv num den = k := by
  have hsplit : num / den * den + num % den = num := Nat.div_add_mod' num den
  have hr : num % den < den := Nat.mod_lt _ hden
  have hle : num / den ≤ k := by
    by_contra h
    have hmul : (k + 1) * den ≤ num / den * den := Nat.mul_le_mul_right _ (by omega)
    rw [Nat.add_mul, Nat.one_mul] at hmul
    omega
  have hge : k ≤ num / den + 1 := by
    by_contra h
    have hmul : (num / den + 2) * den ≤ k * den := Nat.mul_le_mul_right _ (by omega)
    rw [Nat.add_mul] at hmul
    omega
  simp only [roundDiv]
  rcases Nat.lt_or_eq_of_le hle with hlt | heq
  · have hk : k = num / den + 1 := by omega
    have hmul : k * den = num / den * den + den := by rw [hk, Nat.add_mul, Nat.one_mul]
    split
    · omega
    · split
      · exact hk.symm
      · split
        · have := htie (.inl (by omega))
          omega
        · exact hk.symm
  · rw [← heq] at hlow hhigh htie
    split
    · exact heq
    · split
      · omega
      · split
        · exact heq
        · have := htie (.inr (by omega))
          omega

/-! ### The power of two below a fraction -/

/-- The exponent of the greatest power of two that is not above a fraction. -/
def lowPower (num den : Nat) : Int :=
  let guess : Int := (Nat.log2 num : Int) - Nat.log2 den
  if guess ≥ 0 then (if den * Nat.pow 2 guess.toNat ≤ num then guess else guess - 1)
  else (if den ≤ num * Nat.pow 2 (-guess).toNat then guess else guess - 1)

theorem le_fraction_iff
    {num den : Nat}
    (hden : 0 < den)
    (z : ℤ) :
    den * 2 ^ z.toNat ≤ num * 2 ^ (-z).toNat ↔ (2 : ℚ) ^ z ≤ num / den := by
  have hd : (0 : ℚ) < den := by exact_mod_cast hden
  have hp : (0 : ℚ) < 2 ^ (-z).toNat := by positivity
  rw [zpow_eq_div (by norm_num), div_le_div_iff₀ hp hd]
  constructor
  · intro h
    have hcast : ((den * 2 ^ z.toNat : Nat) : ℚ) ≤ (num * 2 ^ (-z).toNat : Nat) := by
      exact_mod_cast h
    push_cast at hcast
    linarith
  · intro h
    have hcast : ((den * 2 ^ z.toNat : Nat) : ℚ) ≤ (num * 2 ^ (-z).toNat : Nat) := by
      push_cast
      linarith
    exact_mod_cast hcast

theorem lowPower_eq
    {num den : Nat}
    (hden : 0 < den) :
    lowPower num den =
      if (2 : ℚ) ^ ((Nat.log2 num : Int) - Nat.log2 den) ≤ num / den
      then (Nat.log2 num : Int) - Nat.log2 den
      else (Nat.log2 num : Int) - Nat.log2 den - 1 := by
  simp only [lowPower, Nat.pow_eq, ge_iff_le, ← le_fraction_iff hden]
  split
  · rename_i h
    have hzero : (-((Nat.log2 num : Int) - Nat.log2 den)).toNat = 0 := by omega
    rw [hzero, Nat.pow_zero, Nat.mul_one]
  · rename_i h
    have hzero : ((Nat.log2 num : Int) - Nat.log2 den).toNat = 0 := by omega
    rw [hzero, Nat.pow_zero, Nat.mul_one]

theorem lowPower_spec
    {num den : Nat}
    (hnum : 0 < num)
    (hden : 0 < den) :
    (2 : ℚ) ^ lowPower num den ≤ num / den ∧ (num : ℚ) / den < 2 ^ (lowPower num den + 1) := by
  have hd : (0 : ℚ) < den := by exact_mod_cast hden
  have hnumLow : (2 : ℚ) ^ (Nat.log2 num) ≤ num := by
    exact_mod_cast Nat.log2_self_le (by omega)
  have hnumHigh : (num : ℚ) < 2 ^ (Nat.log2 num + 1) := by
    exact_mod_cast Nat.lt_log2_self
  have hdenLow : (2 : ℚ) ^ (Nat.log2 den) ≤ den := by
    exact_mod_cast Nat.log2_self_le (by omega)
  have hdenHigh : (den : ℚ) < 2 ^ (Nat.log2 den + 1) := by
    exact_mod_cast Nat.lt_log2_self
  have hbelow : (2 : ℚ) ^ ((Nat.log2 num : Int) - Nat.log2 den - 1) < num / den := by
    rw [lt_div_iff₀ hd]
    calc (2 : ℚ) ^ ((Nat.log2 num : Int) - Nat.log2 den - 1) * den
        < 2 ^ ((Nat.log2 num : Int) - Nat.log2 den - 1) * 2 ^ (Nat.log2 den + 1) :=
          mul_lt_mul_of_pos_left hdenHigh (by positivity)
      _ = 2 ^ Nat.log2 num := by
          rw [← zpow_natCast, ← zpow_add₀ (by norm_num), ← zpow_natCast]
          congr 1
          push_cast
          ring
      _ ≤ num := hnumLow
  have habove : (num : ℚ) / den < 2 ^ ((Nat.log2 num : Int) - Nat.log2 den + 1) := by
    rw [div_lt_iff₀ hd]
    calc (num : ℚ) < 2 ^ (Nat.log2 num + 1) := hnumHigh
      _ = 2 ^ ((Nat.log2 num : Int) - Nat.log2 den + 1) * 2 ^ Nat.log2 den := by
          rw [← zpow_natCast, ← zpow_natCast, ← zpow_add₀ (by norm_num)]
          congr 1
          push_cast
          ring
      _ ≤ 2 ^ ((Nat.log2 num : Int) - Nat.log2 den + 1) * den :=
          mul_le_mul_of_nonneg_left hdenLow (by positivity)
  rw [lowPower_eq hden]
  split
  · rename_i h
    exact ⟨h, habove⟩
  · rename_i h
    refine ⟨hbelow.le, ?_⟩
    rw [sub_add_cancel]
    exact not_le.mp h

/-- There is only one power of two just below a fraction. -/
theorem lowPower_unique
    {num den : Nat} {z : ℤ}
    (hnum : 0 < num)
    (hden : 0 < den)
    (hlow : (2 : ℚ) ^ z ≤ num / den)
    (hhigh : (num : ℚ) / den < 2 ^ (z + 1)) :
    lowPower num den = z := by
  obtain ⟨hlow', hhigh'⟩ := lowPower_spec hnum hden
  have h₁ : z < lowPower num den + 1 :=
    (zpow_lt_zpow_iff_right₀ (by norm_num : (1 : ℚ) < 2)).mp (lt_of_le_of_lt hlow hhigh')
  have h₂ : lowPower num den < z + 1 :=
    (zpow_lt_zpow_iff_right₀ (by norm_num : (1 : ℚ) < 2)).mp (lt_of_le_of_lt hlow' hhigh)
  omega

/-! ### The parts of a number -/

/-- Two to the power of 52, in decimal. -/
theorem pow_52 :
    Nat.pow 2 52 = 4503599627370496 := rfl

/-- Two to the power of 63, in decimal. -/
theorem pow_63 :
    Nat.pow 2 63 = 9223372036854775808 := rfl

/-- What the mantissa and the exponent of a finite number are like. -/
structure Parts (x : Double) (m : Nat) (q : Int) : Prop where
  magnitude : x.magnitude = (q + 1074).toNat * 4503599627370496 + m
  exponent : -1074 ≤ q
  mantissa : m < 9007199254740992
  small : m < 4503599627370496 → q = -1074

theorem parts
    (x : Double) :
    Parts x x.mantissaExponent.1 x.mantissaExponent.2 := by
  simp only [mantissaExponent, pow_52]
  have hsplit := Nat.div_add_mod x.magnitude 4503599627370496
  have hmod := Nat.mod_lt x.magnitude (show 0 < 4503599627370496 by omega)
  split
  · rename_i hzero
    refine ⟨?_, Int.le_refl _, ?_, fun _ => rfl⟩ <;> simp only <;> omega
  · refine ⟨?_, ?_, ?_, ?_⟩ <;> simp only <;> omega

theorem magnitude_ofParts
    {b : Bool} {k : Nat}
    (hk : k < 9223372036854775808) :
    (ofParts b k).magnitude = k ∧ (ofParts b k).negative = b := by
  have hbits : (ofParts b k).bits.toNat = (if b then 9223372036854775808 else 0) + k := by
    simp only [ofParts, pow_63, UInt64.toNat_ofNat']
    refine Nat.mod_eq_of_lt ?_
    cases b <;> simp <;> omega
  constructor
  · simp only [magnitude, hbits, pow_63]
    cases b
    · simp
      omega
    · simp
      omega
  · simp only [negative, hbits, pow_63]
    cases b
    · simp
      omega
    · simp

/-- A number is made up of its sign and the bits below. -/
theorem ofParts_magnitude
    (x : Double) :
    ofParts x.negative x.magnitude = x := by
  obtain ⟨bits⟩ := x
  have hlt := bits.toNat_lt
  simp only [ofParts, negative, magnitude, pow_63, mk.injEq]
  refine UInt64.toNat_inj.mp ?_
  rw [UInt64.toNat_ofNat']
  by_cases h : 9223372036854775808 ≤ bits.toNat <;> simp [h] <;> omega

/-! ### The nearest number -/

/-- The number of quarters of a unit from a mantissa down to the midpoint below. -/
def lowGap (m : Nat) (q : Int) : Nat :=
  if m = 4503599627370496 ∧ -1074 < q then 1 else 2

/-- A value lies between the midpoints around `m` times two to the power `q`, which
count only for an even mantissa. -/
structure Near (m : Nat) (q : Int) (v : ℚ) : Prop where
  low : (4 * (m : ℚ) - lowGap m q) * 2 ^ (q - 2) ≤ v
  high : v ≤ (4 * (m : ℚ) + 2) * 2 ^ (q - 2)
  even : v = (4 * (m : ℚ) - lowGap m q) * 2 ^ (q - 2) ∨ v = (4 * (m : ℚ) + 2) * 2 ^ (q - 2) →
    m % 2 = 0

theorem lowGap_cases
    (m : Nat) (q : Int) :
    (lowGap m q = 1 ∧ m = 4503599627370496 ∧ -1074 < q) ∨
      (lowGap m q = 2 ∧ (m = 4503599627370496 → q ≤ -1074)) := by
  unfold lowGap
  split
  · rename_i h
    exact .inl ⟨rfl, h⟩
  · rename_i h
    exact .inr ⟨rfl, fun hm => by by_contra hq; exact h ⟨hm, by omega⟩⟩

theorem lowGap_bounds
    (m : Nat) (q : Int) :
    0 < lowGap m q ∧ lowGap m q ≤ 2 := by
  rcases lowGap_cases m q with ⟨h, -⟩ | ⟨h, -⟩ <;> omega

/-- The rounding of a fraction at a scale. -/
theorem roundDiv_scaled
    {num den k : Nat} {scale : Int}
    (hden : 0 < den)
    (hlow : ((k : ℚ) - 1 / 2) * 2 ^ scale ≤ num / den)
    (hhigh : (num : ℚ) / den ≤ ((k : ℚ) + 1 / 2) * 2 ^ scale)
    (htie : (num : ℚ) / den = ((k : ℚ) - 1 / 2) * 2 ^ scale ∨
      (num : ℚ) / den = ((k : ℚ) + 1 / 2) * 2 ^ scale → k % 2 = 0) :
    roundDiv (num * 2 ^ (-scale).toNat) (den * 2 ^ scale.toNat) = k := by
  have hd : (0 : ℚ) < den := by exact_mod_cast hden
  have hp : (0 : ℚ) < 2 ^ (-scale).toNat := by positivity
  have hscale := zpow_eq_div (b := (2 : ℚ)) (by norm_num) scale
  have hbound : ∀ c : ℚ, c * 2 ^ scale = c * (den * 2 ^ scale.toNat) / (den * 2 ^ (-scale).toNat) := by
    intro c
    rw [hscale]
    field_simp
  have hvalue : (num : ℚ) / den = num * 2 ^ (-scale).toNat / (den * 2 ^ (-scale).toNat) := by
    field_simp
  have hpos : (0 : ℚ) < den * 2 ^ (-scale).toNat := by positivity
  rw [hbound, hvalue, div_le_div_iff_of_pos_right hpos] at hlow hhigh
  simp only [hbound, hvalue, div_left_inj' hpos.ne'] at htie
  have hcast : ∀ a b : Nat, (a : ℚ) ≤ b → a ≤ b := fun a b h => by exact_mod_cast h
  refine roundDiv_eq (by positivity) (hcast _ _ ?_) (hcast _ _ ?_) ?_
  · push_cast
    linarith
  · push_cast
    linarith
  · intro h
    refine htie ?_
    rcases h with h | h
    · left
      have h' : ((2 * (k * (den * 2 ^ scale.toNat)) : Nat) : ℚ) =
          (2 * (num * 2 ^ (-scale).toNat) + den * 2 ^ scale.toNat : Nat) := by rw [h]
      push_cast at h'
      linarith
    · right
      have h' : ((2 * (num * 2 ^ (-scale).toNat) : Nat) : ℚ) =
          (2 * (k * (den * 2 ^ scale.toNat)) + den * 2 ^ scale.toNat : Nat) := by rw [h]
      push_cast at h'
      linarith

theorem two_zpow_add
    (z : ℤ) (k : Nat) :
    (2 : ℚ) ^ (z + k) = 2 ^ k * 2 ^ z := by
  rw [zpow_add₀ (by norm_num), zpow_natCast, mul_comm]

/-- The scale at which a fraction next to a number is rounded: the exponent of the
number, or one less just below a power of two. -/
theorem scale_of_near
    {x : Double} {m num den : Nat} {q : Int}
    (hparts : Parts x m q)
    (hnum : 0 < num)
    (hden : 0 < den)
    (hnear : Near m q (num / den)) :
    max (lowPower num den - 52) (-1074) = q ∨
      max (lowPower num den - 52) (-1074) = q - 1 ∧ m = 4503599627370496 ∧ -1074 < q ∧
        (num : ℚ) / den < 2 ^ (q + 52) := by
  have hu : (0 : ℚ) < 2 ^ (q - 2) := by positivity
  have hmantissa : (m : ℚ) ≤ 9007199254740991 := by
    exact_mod_cast Nat.le_of_lt_succ hparts.mantissa
  have hbelow : (num : ℚ) / den < 2 ^ (q + 53) := by
    have hpow := two_zpow_add (q - 2) 55
    norm_num at hpow
    rw [show q + 53 = q - 2 + 55 by ring, hpow]
    nlinarith [hnear.high]
  have hle : lowPower num den < q + 53 :=
    (zpow_lt_zpow_iff_right₀ (by norm_num : (1 : ℚ) < 2)).mp
      (lt_of_le_of_lt (lowPower_spec hnum hden).1 hbelow)
  have hq := hparts.exponent
  by_cases hmin : q = -1074
  · left
    omega
  · by_cases hsmall : (num : ℚ) / den < 2 ^ (q + 52)
    · right
      have hpow := two_zpow_add (q - 2) 54
      norm_num at hpow
      have hlarge : 4503599627370496 ≤ m := by
        by_contra h
        exact hmin (hparts.small (by omega))
      have hgap : (lowGap m q : ℚ) ≤ 2 := by exact_mod_cast (lowGap_bounds m q).2
      have heq : m = 4503599627370496 := by
        by_contra h
        have hm : (4503599627370497 : ℚ) ≤ m := by
          exact_mod_cast (by omega : 4503599627370497 ≤ m)
        rw [show q + 52 = q - 2 + 54 by ring, hpow] at hsmall
        nlinarith [hnear.low]
      refine ⟨?_, heq, by omega, hsmall⟩
      have hlow : (2 : ℚ) ^ (q + 51) ≤ num / den := by
        have hpow' := two_zpow_add (q - 2) 53
        norm_num at hpow'
        rw [show q + 51 = q - 2 + 53 by ring, hpow']
        have hm : (m : ℚ) = 4503599627370496 := by exact_mod_cast heq
        have := hnear.low
        rw [hm] at this
        nlinarith
      have hpower := lowPower_unique hnum hden hlow
        (by rw [show q + 51 + 1 = q + 52 by ring]; exact hsmall)
      omega
    · left
      have hpower := lowPower_unique hnum hden (not_lt.mp hsmall)
        (by rw [show q + 52 + 1 = q + 53 by ring]; exact hbelow)
      omega

theorem ofRatio_eq_rounded
    {b : Bool} {num den : Nat}
    (hnum : 0 < num) :
    ofRatio b num den =
      let scale := max (lowPower num den - 52) (-1074)
      ofParts b (min ((scale + 1074).toNat * 4503599627370496 +
        roundDiv (num * 2 ^ (-scale).toNat) (den * 2 ^ scale.toNat)) infinityBits) := by
  have hunfold : ofRatio b num den =
      let scale := max (lowPower num den - 52) (-1074)
      ofParts b (min ((scale + 1074).toNat * Nat.pow 2 52 +
        if scale ≥ 0 then roundDiv num (den * Nat.pow 2 scale.toNat)
        else roundDiv (num * Nat.pow 2 (-scale).toNat) den) infinityBits) := by
    rw [ofRatio, if_neg (Nat.ne_of_gt hnum)]
    rfl
  rw [hunfold]
  simp only [Nat.pow_eq]
  split
  · rename_i h
    rw [Int.toNat_eq_zero.mpr (show -max (lowPower num den - 52) (-1074) ≤ 0 by omega),
      Nat.pow_zero, Nat.mul_one]
  · rename_i h
    rw [Int.toNat_eq_zero.mpr (show max (lowPower num den - 52) (-1074) ≤ 0 by omega),
      Nat.pow_zero, Nat.mul_one]

theorem two_zpow_eq_four
    (q : Int) :
    (2 : ℚ) ^ q = 4 * 2 ^ (q - 2) := by
  have hpow := two_zpow_add (q - 2) 2
  norm_num at hpow
  exact hpow

theorem two_zpow_pred_eq_two
    (q : Int) :
    (2 : ℚ) ^ (q - 1) = 2 * 2 ^ (q - 2) := by
  have hpow := two_zpow_add (q - 2) 1
  rw [show q - 2 + ((1 : Nat) : ℤ) = q - 1 by push_cast; ring] at hpow
  simpa using hpow

/-- A fraction near a number is rounded to its mantissa on the grid of the number. -/
theorem roundDiv_of_near
    {m num den : Nat} {q : Int}
    (hden : 0 < den)
    (hnear : Near m q (num / den)) :
    roundDiv (num * 2 ^ (-q).toNat) (den * 2 ^ q.toNat) = m := by
  have hu : (0 : ℚ) < 2 ^ (q - 2) := by positivity
  have hgap := lowGap_cases m q
  have hlow := hnear.low
  refine roundDiv_scaled hden ?_ ?_ ?_
  · rw [two_zpow_eq_four]
    rcases hgap with ⟨hgap, -⟩ | ⟨hgap, -⟩ <;> rw [hgap] at hlow <;> push_cast at hlow <;>
      nlinarith
  · rw [two_zpow_eq_four]
    nlinarith [hnear.high]
  · intro htie
    refine hnear.even ?_
    rw [two_zpow_eq_four] at htie
    rcases htie with htie | htie
    · left
      rcases hgap with ⟨hgap, -⟩ | ⟨hgap, -⟩
      · rw [hgap, htie] at hlow
        push_cast at hlow
        nlinarith
      · rw [htie, hgap]
        push_cast
        ring
    · right
      rw [htie]
      ring

/-- Just below the least mantissa of a scale, a fraction near it is rounded to the top of
the grid of the scale before. -/
theorem roundDiv_of_near_below
    {num den : Nat} {q : Int}
    (hden : 0 < den)
    (hmin : -1074 < q)
    (hnear : Near 4503599627370496 q (num / den))
    (hsmall : (num : ℚ) / den < 2 ^ (q + 52)) :
    roundDiv (num * 2 ^ (-(q - 1)).toNat) (den * 2 ^ (q - 1).toNat) = 9007199254740992 := by
  have hu : (0 : ℚ) < 2 ^ (q - 2) := by positivity
  have hgap : lowGap 4503599627370496 q = 1 := by
    rw [lowGap, if_pos ⟨rfl, hmin⟩]
  have hlow := hnear.low
  have hpow := two_zpow_add (q - 2) 54
  norm_num at hpow
  rw [show q + 52 = q - 2 + 54 by ring, hpow] at hsmall
  rw [hgap] at hlow
  push_cast at hlow
  refine roundDiv_scaled hden ?_ ?_ fun _ => rfl
  · rw [two_zpow_pred_eq_two]
    push_cast
    nlinarith
  · rw [two_zpow_pred_eq_two]
    push_cast
    nlinarith

/-- A finite number that is not zero is the nearest one to every value around it. -/
theorem ofRatio_eq_of_near
    {x : Double} {num den : Nat}
    (hfinite : x.isFinite = true)
    (hnum : 0 < num)
    (hden : 0 < den)
    (hnear : Near x.mantissaExponent.1 x.mantissaExponent.2 (num / den)) :
    ofRatio x.negative num den = x := by
  have hparts := parts x
  generalize x.mantissaExponent.1 = m at hparts hnear
  generalize x.mantissaExponent.2 = q at hparts hnear
  have hmagnitude := hparts.magnitude
  have hbound : x.magnitude < infinityBits := by simpa [isFinite] using hfinite
  have hrounded : (max (lowPower num den - 52) (-1074) + 1074).toNat * 4503599627370496 +
      roundDiv (num * 2 ^ (-max (lowPower num den - 52) (-1074)).toNat)
        (den * 2 ^ (max (lowPower num den - 52) (-1074)).toNat) = x.magnitude := by
    rcases scale_of_near hparts hnum hden hnear with hscale | ⟨hscale, rfl, hmin, hsmall⟩
    · rw [hscale, roundDiv_of_near hden hnear, hmagnitude]
    · rw [hscale, roundDiv_of_near_below hden hmin hnear hsmall, hmagnitude]
      omega
  rw [ofRatio_eq_rounded hnum]
  simp only [hrounded, Nat.min_eq_left (Nat.le_of_lt hbound), ofParts_magnitude]

end Double
end Homelab
