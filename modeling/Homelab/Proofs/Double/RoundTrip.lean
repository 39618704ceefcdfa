import Homelab.Proofs.Double.Shortest

/-!
# Decimals read as numbers

A decimal between the midpoints around a number is read as that number, in whatever way
it is split into a mantissa and a power of ten: the shortest decimal reads back.
-/

namespace Homelab
namespace Double

theorem zpow_13_le
    (k : Nat) :
    (2 : ℚ) ^ (13 * k) ≤ 10 ^ (4 * k) := by
  rw [pow_mul, pow_mul]
  exact pow_le_pow_left₀ (by norm_num) (by norm_num) k

/-- The decimals around a finite number that is not zero are neither too large nor too
small to be looked at. -/
theorem near_bounds
    {x : Double} {m : Nat} {q : Int} {v : ℚ}
    (hparts : Parts x m q)
    (hpos : 0 < m)
    (hfinite : x.isFinite = true)
    (hnear : Near m q v) :
    (10 : ℚ) ^ (-(4 * 83 : Nat) : Int) ≤ v ∧ v ≤ 10 ^ ((4 * 79 : Nat) : Int) := by
  have hu : (0 : ℚ) < 2 ^ (q - 2) := by positivity
  have hq : q ≤ 971 := by
    have hmagnitude := hparts.magnitude
    have hsmall := hparts.small
    have hbound : x.magnitude < infinityBits := of_decide_eq_true hfinite
    simp only [infinityBits, pow_52] at hbound
    omega
  constructor
  · have hm : (1 : ℚ) ≤ m := by exact_mod_cast hpos
    have hgap : (lowGap m q : ℚ) ≤ 2 := by exact_mod_cast (lowGap_bounds m q).2
    calc (10 : ℚ) ^ (-(4 * 83 : Nat) : Int) ≤ 2 ^ (-(13 * 83 : Nat) : Int) := by
          rw [zpow_neg, zpow_neg, zpow_natCast, zpow_natCast]
          exact inv_anti₀ (by positivity) (zpow_13_le 83)
      _ ≤ 2 ^ (q - 2) := zpow_le_zpow_right₀ (by norm_num) (by have := hparts.exponent; omega)
      _ ≤ (4 * (m : ℚ) - lowGap m q) * 2 ^ (q - 2) := by nlinarith
      _ ≤ v := hnear.low
  · have hm : (m : ℚ) ≤ 9007199254740991 := by
      exact_mod_cast Nat.le_of_lt_succ hparts.mantissa
    calc v ≤ (4 * (m : ℚ) + 2) * 2 ^ (q - 2) := hnear.high
      _ ≤ 2 ^ (55 : Int) * 2 ^ (q - 2) := by norm_num; nlinarith
      _ ≤ 2 ^ ((13 * 79 : Nat) : Int) := by
          rw [← zpow_add₀ (by norm_num)]
          exact zpow_le_zpow_right₀ (by norm_num) (by omega)
      _ ≤ 10 ^ ((4 * 79 : Nat) : Int) := by
          rw [zpow_natCast, zpow_natCast]
          exact zpow_13_le 79

/-- A decimal near a number is read as the number. -/
theorem ofDecimal_of_near
    {x : Double} {m : Nat} {e : Int}
    (hfinite : x.isFinite = true)
    (hzero : x.isZero = false)
    (hnear : Near x.mantissaExponent.1 x.mantissaExponent.2 (decimal (m, e))) :
    ofDecimal x.negative m e = x := by
  have hparts := parts x
  have hpos : 0 < x.mantissaExponent.1 := by
    have := (isZero_iff hparts).not.mp (by simp [hzero])
    omega
  have hm : 0 < m := pos_of_near hpos hnear
  obtain ⟨hlow, hhigh⟩ := near_bounds hparts hpos hfinite hnear
  obtain ⟨hcountLow, hcountHigh, hcount⟩ := digitCount_spec hm
  have hten : (0 : ℚ) < 10 ^ e := by positivity
  have htop : (digitCount m : Int) + e ≤ 320 := by
    have hle : (10 : ℚ) ^ ((digitCount m : Int) - 1 + e) ≤ 10 ^ ((4 * 79 : Nat) : Int) := by
      refine le_trans ?_ hhigh
      rw [zpow_add₀ (by norm_num), decimal]
      refine mul_le_mul_of_nonneg_right ?_ hten.le
      rw [show (digitCount m : Int) - 1 = ((digitCount m - 1 : Nat) : Int) by omega, zpow_natCast]
      exact_mod_cast hcountLow
    have := (zpow_le_zpow_iff_right₀ (by norm_num : (1 : ℚ) < 10)).mp hle
    omega
  have hbottom : -340 ≤ (digitCount m : Int) + e := by
    have hlt : (10 : ℚ) ^ (-(4 * 83 : Nat) : Int) < 10 ^ ((digitCount m : Int) + e) := by
      refine lt_of_le_of_lt hlow ?_
      rw [zpow_add₀ (by norm_num), decimal]
      refine mul_lt_mul_of_pos_right ?_ hten
      rw [zpow_natCast]
      exact_mod_cast hcountHigh
    have := (zpow_lt_zpow_iff_right₀ (by norm_num : (1 : ℚ) < 10)).mp hlt
    omega
  rw [ofDecimal, if_neg (by omega)]
  simp only [Nat.pow_eq]
  rw [if_neg (by omega), if_neg (by omega)]
  split
  · rename_i he
    refine ofRatio_eq_of_near hfinite (by positivity) (by omega) ?_
    rw [Nat.cast_one, div_one]
    push_cast
    rwa [← zpow_natCast, Int.toNat_of_nonneg he]
  · rename_i he
    refine ofRatio_eq_of_near hfinite hm (by positivity) ?_
    push_cast
    rwa [← zpow_natCast, Int.toNat_of_nonneg (by omega), zpow_neg, div_inv_eq_mul]

/-- A decimal of the value of the shortest one is read as the number. -/
theorem ofDecimal_of_decimal_eq
    {x : Double} {m : Nat} {e : Int}
    (hfinite : x.isFinite = true)
    (hzero : x.isZero = false)
    (h : decimal (m, e) = decimal x.shortest) :
    ofDecimal x.negative m e = x := by
  refine ofDecimal_of_near hfinite hzero ?_
  rw [h]
  exact near_shortest hzero

end Double
end Homelab
