import Homelab.Proofs.Double.Rounding

/-!
# The shortest decimal of a number

The search for the shortest decimal tries the grids of one digit, of two digits, and so
on.  The grid of seventeen digits is finer than the distance between the midpoints around
a number, so that the search succeeds, and what it gives lies between the midpoints.
-/

namespace Homelab
namespace Double

/-- The value of a decimal. -/
def decimal (d : Nat × Int) : ℚ := d.1 * 10 ^ d.2

/-! ### Decimal digits -/

theorem digitCount_spec
    {n : Nat}
    (hn : 0 < n) :
    10 ^ (digitCount n - 1) ≤ n ∧ n < 10 ^ digitCount n ∧ 0 < digitCount n := by
  induction n using Nat.strongRecOn with
  | _ n ih =>
      rw [digitCount, if_neg (by omega)]
      by_cases hsmall : n / 10 = 0
      · have hzero : digitCount (n / 10) = 0 := by
          rw [hsmall, digitCount]
          rfl
        rw [hzero]
        omega
      · obtain ⟨hlow, hhigh, hpos⟩ := ih (n / 10) (by omega) (by omega)
        have hpow : 10 ^ digitCount (n / 10) = 10 * 10 ^ (digitCount (n / 10) - 1) := by
          rw [← Nat.pow_succ']
          congr 1
          omega
        rw [Nat.pow_succ]
        simp only [Nat.add_sub_cancel]
        omega

theorem leadingZeros_spec
    {den fuel num : Nat}
    (h : den ≤ num * 10 ^ fuel) :
    den ≤ num * 10 ^ leadingZeros den fuel num := by
  induction fuel generalizing num with
  | zero => simpa [leadingZeros] using h
  | succ fuel ih =>
      rw [leadingZeros]
      split
      · simpa
      · have hnum : den ≤ num * 10 * 10 ^ fuel := by
          rw [Nat.pow_succ'] at h
          linarith
        have hnext := ih hnum
        rw [Nat.pow_succ']
        linarith

/-- A fraction is not below the power of ten one under its decimal exponent. -/
theorem decimalExponent_spec
    {num den : Nat}
    (hden : 0 < den)
    (hfuel : den ≤ num * 10 ^ 400) :
    (10 : ℚ) ^ (decimalExponent num den - 1) ≤ num / den := by
  have hd : (0 : ℚ) < den := by exact_mod_cast hden
  rw [le_div_iff₀ hd]
  unfold decimalExponent
  split
  · rename_i hle
    have hpos : 0 < num / den := Nat.div_pos hle hden
    obtain ⟨hlow, -, hcount⟩ := digitCount_spec hpos
    have hmul : 10 ^ (digitCount (num / den) - 1) * den ≤ num :=
      (Nat.mul_le_mul_right den hlow).trans (Nat.div_mul_le_self num den)
    rw [show ((digitCount (num / den) : Nat) : ℤ) - 1 = ((digitCount (num / den) - 1 : Nat) : ℤ) by
      omega, zpow_natCast]
    exact_mod_cast hmul
  · have hzeros := leadingZeros_spec hfuel
    rw [show 1 - (leadingZeros den 400 num : ℤ) - 1 = -(leadingZeros den 400 num : ℤ) by ring,
      zpow_neg, zpow_natCast, inv_mul_le_iff₀ (by positivity)]
    rw [mul_comm] at hzeros
    exact_mod_cast hzeros

/-- Final zeros do not change the value. -/
theorem decimal_dropZeros
    (m : Nat) (e : Int) :
    decimal (dropZeros m e) = decimal (m, e) ∧ (0 < m → 0 < (dropZeros m e).1) := by
  induction m using Nat.strongRecOn generalizing e with
  | _ m ih =>
      rw [dropZeros]
      split
      · exact ⟨rfl, id⟩
      · rename_i h
        obtain ⟨hvalue, hpos⟩ := ih (m / 10) (by omega) (e + 1)
        refine ⟨?_, fun _ => hpos (by omega)⟩
        have hm : (m : ℚ) = ((m / 10 : Nat) : ℚ) * 10 := by
          have : m = m / 10 * 10 := by omega
          exact_mod_cast this
        rw [hvalue, decimal, decimal, zpow_add₀ (by norm_num), zpow_one, hm]
        ring

/-! ### The search -/

/-- A value lies in an interval, the ends of which count if it is closed. -/
def Inside (low high : ℚ) (closed : Bool) (v : ℚ) : Prop :=
  if closed then low ≤ v ∧ v ≤ high else low < v ∧ v < high

theorem inside_of_lt
    {low high v : ℚ} {closed : Bool}
    (hlow : low < v)
    (hhigh : v < high) :
    Inside low high closed v := by
  cases closed
  · exact ⟨hlow, hhigh⟩
  · exact ⟨hlow.le, hhigh.le⟩

/-- The test of the search: a point of a grid lies in the interval. -/
def isInside (low high den : Nat) (closed : Bool) (unit : Int) (k : Nat) : Bool :=
  let up := Nat.pow 10 (-unit).toNat
  let step := den * Nat.pow 10 unit.toNat
  if closed then low * up ≤ k * step && k * step ≤ high * up
  else low * up < k * step && k * step < high * up

/-- The point of a grid just below a value. -/
def pointBelow (value den : Nat) (unit : Int) : Nat :=
  value * Nat.pow 10 (-unit).toNat / (den * Nat.pow 10 unit.toNat)

/-- What a step of the search gives: of the two points next to the value the one that lies in
the interval, or the nearer one, or what the next grid gives. -/
def chosen (nearer below above : Bool) (lower upper next : Nat × Int) : Nat × Int :=
  match below, above with
  | true, true => if nearer then lower else upper
  | true, false => lower
  | false, true => upper
  | false, false => next

/-- A step of the search gives one of the two points next to the value, if one of them
lies in the interval, and goes on to the next grid otherwise. -/
theorem firstGrid_succ
    (low value high den : Nat) (closed : Bool) (exponent : Int) (left n : Nat) :
    let unit := exponent - n
    let k := pointBelow value den unit
    (isInside low high den closed unit k = true ∧
      firstGrid low value high den closed exponent (left + 1) n = (k, unit)) ∨
    (isInside low high den closed unit (k + 1) = true ∧
      firstGrid low value high den closed exponent (left + 1) n = (k + 1, unit)) ∨
    (isInside low high den closed unit k = false ∧
      isInside low high den closed unit (k + 1) = false ∧
      firstGrid low value high den closed exponent (left + 1) n =
        firstGrid low value high den closed exponent left (n + 1)) := by
  intro unit k
  obtain ⟨nearer, hstep⟩ : ∃ nearer : Bool,
      firstGrid low value high den closed exponent (left + 1) n =
        chosen nearer (isInside low high den closed unit k)
          (isInside low high den closed unit (k + 1)) (k, unit) (k + 1, unit)
          (firstGrid low value high den closed exponent left (n + 1)) := ⟨_, rfl⟩
  rw [hstep]
  cases hbelow : isInside low high den closed unit k <;>
    cases habove : isInside low high den closed unit (k + 1) <;> cases nearer <;> simp [chosen]

/-- A point of a grid over the common denominator. -/
theorem decimal_eq_div
    {den : Nat}
    (hden : 0 < den)
    (k : Nat) (unit : Int) :
    decimal (k, unit) = (k * (den * 10 ^ unit.toNat) : Nat) / (den * 10 ^ (-unit).toNat) := by
  have hd : (0 : ℚ) < den := by exact_mod_cast hden
  rw [decimal, zpow_eq_div (by norm_num)]
  push_cast
  field_simp

/-- A fraction over the common denominator. -/
theorem div_eq_div
    {den : Nat}
    (hden : 0 < den)
    (n : Nat) (unit : Int) :
    (n : ℚ) / den = (n * 10 ^ (-unit).toNat : Nat) / (den * 10 ^ (-unit).toNat) := by
  have hd : (0 : ℚ) < den := by exact_mod_cast hden
  push_cast
  field_simp

theorem isInside_iff
    {low high den k : Nat} {closed : Bool} {unit : Int}
    (hden : 0 < den) :
    isInside low high den closed unit k = true ↔
      Inside ((low : ℚ) / den) (high / den) closed (decimal (k, unit)) := by
  have hpos : (0 : ℚ) < den * 10 ^ (-unit).toNat := by positivity
  rw [Inside, decimal_eq_div hden, div_eq_div hden low unit, div_eq_div hden high unit,
    div_le_div_iff_of_pos_right hpos, div_le_div_iff_of_pos_right hpos,
    div_lt_div_iff_of_pos_right hpos, div_lt_div_iff_of_pos_right hpos,
    Nat.cast_le, Nat.cast_le, Nat.cast_lt, Nat.cast_lt]
  cases closed <;> simp [isInside]

/-- The point just below a value is not above it, and the next one is. -/
theorem pointBelow_spec
    (value : Nat) {den : Nat} (unit : Int)
    (hden : 0 < den) :
    decimal (pointBelow value den unit, unit) ≤ value / den ∧
      (value : ℚ) / den < decimal (pointBelow value den unit + 1, unit) := by
  have hpos : (0 : ℚ) < den * 10 ^ (-unit).toNat := by positivity
  have hstep : 0 < den * 10 ^ unit.toNat := by positivity
  rw [decimal_eq_div hden, decimal_eq_div hden, div_eq_div hden value unit,
    div_le_div_iff_of_pos_right hpos, div_lt_div_iff_of_pos_right hpos, Nat.cast_le, Nat.cast_lt]
  refine ⟨Nat.div_mul_le_self _ _, ?_⟩
  simp only [pointBelow, Nat.pow_eq]
  exact (Nat.div_lt_iff_lt_mul hstep).mp (Nat.lt_succ_self _)

/-- The search gives a value in the interval as soon as one of its grids has a point
there next to the value. -/
theorem inside_firstGrid
    {low value high den : Nat} {closed : Bool} {exponent : Int}
    (hden : 0 < den)
    {left n j : Nat}
    (hj : j < left)
    (hhits : isInside low high den closed (exponent - (n + j : Nat))
        (pointBelow value den (exponent - (n + j : Nat))) = true ∨
      isInside low high den closed (exponent - (n + j : Nat))
        (pointBelow value den (exponent - (n + j : Nat)) + 1) = true) :
    Inside ((low : ℚ) / den) (high / den) closed
      (decimal (firstGrid low value high den closed exponent left n)) := by
  induction left generalizing n j with
  | zero => omega
  | succ left ih =>
      rcases firstGrid_succ low value high den closed exponent left n with
        ⟨hbelow, hresult⟩ | ⟨habove, hresult⟩ | ⟨hbelow, habove, hresult⟩
      · rw [hresult]
        exact (isInside_iff hden).mp hbelow
      · rw [hresult]
        exact (isInside_iff hden).mp habove
      · rw [hresult]
        have hne : j ≠ 0 := by
          rintro rfl
          simp [hbelow, habove] at hhits
        obtain ⟨i, rfl⟩ := Nat.exists_eq_succ_of_ne_zero hne
        refine ih (j := i) (by omega) ?_
        rwa [show n + 1 + i = n + i.succ by omega]

/-- A grid that is finer than the interval has a point in it next to the value. -/
theorem exists_isInside
    {low value high den : Nat} {closed : Bool} {unit : Int}
    (hden : 0 < den)
    (hlow : low < value)
    (hhigh : value < high)
    (hfine : (10 : ℚ) ^ unit < (high : ℚ) / den - low / den) :
    isInside low high den closed unit (pointBelow value den unit) = true ∨
      isInside low high den closed unit (pointBelow value den unit + 1) = true := by
  have hd : (0 : ℚ) < den := by exact_mod_cast hden
  have hlow' : (low : ℚ) / den < value / den :=
    (div_lt_div_iff_of_pos_right hd).mpr (by exact_mod_cast hlow)
  have hhigh' : (value : ℚ) / den < high / den :=
    (div_lt_div_iff_of_pos_right hd).mpr (by exact_mod_cast hhigh)
  obtain ⟨hbelow, habove⟩ := pointBelow_spec value unit hden
  have hnext : decimal (pointBelow value den unit + 1, unit) =
      decimal (pointBelow value den unit, unit) + 10 ^ unit := by
    simp only [decimal]
    push_cast
    ring
  rw [isInside_iff hden, isInside_iff hden]
  by_cases hin : (low : ℚ) / den < decimal (pointBelow value den unit, unit)
  · exact .inl (inside_of_lt hin (by linarith))
  · refine .inr (inside_of_lt (by linarith) ?_)
    rw [hnext]
    linarith

/-! ### The shortest decimal -/

/-- The parts of a number on the common denominator of the search. -/
theorem quarter_eq
    (n : Nat) (q : Int) :
    ((n * 2 ^ (q - 2).toNat : Nat) : ℚ) / (2 ^ (2 - q).toNat : Nat) = n * 2 ^ (q - 2) := by
  rw [zpow_eq_div (by norm_num) (q - 2), neg_sub]
  push_cast
  ring

theorem isZero_iff
    {x : Double} {m : Nat} {q : Int}
    (hparts : Parts x m q) :
    x.isZero = true ↔ m = 0 := by
  have hmagnitude := hparts.magnitude
  have hsmall := hparts.small
  simp only [isZero, beq_iff_eq]
  omega

/-- The grid of seventeen digits is finer than the distance of the midpoints. -/
theorem grid_lt_interval
    {m : Nat} {q exponent : Int}
    (hm : m < 9007199254740992)
    (hexponent : (10 : ℚ) ^ (exponent - 1) ≤ 4 * m * 2 ^ (q - 2)) :
    (10 : ℚ) ^ (exponent - 17) <
      (4 * (m : ℚ) + 2) * 2 ^ (q - 2) - (4 * (m : ℚ) - lowGap m q) * 2 ^ (q - 2) := by
  have hu : (0 : ℚ) < 2 ^ (q - 2) := by positivity
  have hm' : (m : ℚ) ≤ 9007199254740991 := by exact_mod_cast Nat.le_of_lt_succ hm
  have hpow : (10 : ℚ) ^ (exponent - 1) = 10 ^ (exponent - 17) * 10 ^ 16 := by
    rw [← zpow_natCast, ← zpow_add₀ (by norm_num)]
    congr 1
    push_cast
    ring
  rw [hpow] at hexponent
  rcases lowGap_cases m q with ⟨hgap, hm, -⟩ | ⟨hgap, -⟩
  · have hm'' : (m : ℚ) = 4503599627370496 := by exact_mod_cast hm
    rw [hgap]
    rw [hm''] at hexponent
    push_cast
    nlinarith
  · rw [hgap]
    push_cast
    nlinarith

/-- A value that the search accepts is near the number. -/
theorem near_of_inside
    {m : Nat} {q : Int} {v : ℚ}
    (hpos : 0 < m)
    (h : Inside (((4 * m - lowGap m q) * 2 ^ (q - 2).toNat : Nat) / (2 ^ (2 - q).toNat : Nat))
      (((4 * m + 2) * 2 ^ (q - 2).toNat : Nat) / (2 ^ (2 - q).toNat : Nat)) (m % 2 == 0) v) :
    Near m q v := by
  have hgap : lowGap m q ≤ 4 * m := by
    have := lowGap_bounds m q
    omega
  rw [quarter_eq, quarter_eq, Nat.cast_sub hgap] at h
  push_cast at h
  by_cases heven : m % 2 = 0
  · have hclosed : (m % 2 == 0) = true := by simpa using heven
    rw [Inside, if_pos hclosed] at h
    exact ⟨h.1, h.2, fun _ => heven⟩
  · have hopen : (m % 2 == 0) = false := by simpa using heven
    rw [Inside, hopen] at h
    refine ⟨h.1.le, h.2.le, ?_⟩
    rintro (htie | htie)
    · exact absurd htie h.1.ne'
    · exact absurd htie h.2.ne

theorem two_pow_le_ten_pow
    (k : Nat) :
    2 ^ (3 * k) ≤ 10 ^ k := by
  rw [Nat.pow_mul]
  exact Nat.pow_le_pow_left (by omega) k

/-- The shortest decimal of a finite number that is not zero lies between the midpoints
around it. -/
theorem near_shortest
    {x : Double}
    (hzero : x.isZero = false) :
    Near x.mantissaExponent.1 x.mantissaExponent.2 (decimal x.shortest) := by
  have hparts := parts x
  have hpos : 0 < x.mantissaExponent.1 := by
    have := (isZero_iff hparts).not.mp (by simp [hzero])
    omega
  have hshortest : x.shortest =
      let m := x.mantissaExponent.1
      let q := x.mantissaExponent.2
      let up := 2 ^ (q - 2).toNat
      let den := 2 ^ (2 - q).toNat
      let found := firstGrid ((4 * m - lowGap m q) * up) (4 * m * up) ((4 * m + 2) * up) den
        (m % 2 == 0) (decimalExponent (4 * m * up) den) 17 1
      dropZeros found.1 found.2 := by
    simp only [shortest, lowGap, Nat.pow_eq, gt_iff_lt, Bool.and_eq_true,
      decide_eq_true_eq]
  rw [hshortest]
  generalize x.mantissaExponent.1 = m at hparts hpos ⊢
  generalize x.mantissaExponent.2 = q at hparts hpos ⊢
  have hup : 0 < 2 ^ (q - 2).toNat := by positivity
  have hden : 0 < 2 ^ (2 - q).toNat := by positivity
  have hgap := lowGap_bounds m q
  have hexponent : (10 : ℚ) ^ (decimalExponent (4 * m * 2 ^ (q - 2).toNat) (2 ^ (2 - q).toNat) - 1) ≤
      4 * m * 2 ^ (q - 2) := by
    have hfuel : 2 ^ (2 - q).toNat ≤ 4 * m * 2 ^ (q - 2).toNat * 10 ^ 400 := by
      have hq := hparts.exponent
      calc 2 ^ (2 - q).toNat ≤ 2 ^ (3 * 400) := Nat.pow_le_pow_right (by omega) (by omega)
        _ ≤ 10 ^ 400 := two_pow_le_ten_pow 400
        _ ≤ 4 * m * 2 ^ (q - 2).toNat * 10 ^ 400 :=
          Nat.le_mul_of_pos_left _ (Nat.mul_pos (by omega) hup)
    have hspec := decimalExponent_spec hden hfuel
    rw [quarter_eq] at hspec
    push_cast at hspec
    exact hspec
  simp only [(decimal_dropZeros _ _).1]
  refine near_of_inside hpos (inside_firstGrid hden (j := 16) (by omega) ?_)
  refine exists_isInside hden ?_ ?_ ?_
  · exact Nat.mul_lt_mul_of_pos_right (by omega) hup
  · exact Nat.mul_lt_mul_of_pos_right (by omega) hup
  · rw [quarter_eq, quarter_eq, Nat.cast_sub (by omega)]
    push_cast
    exact grid_lt_interval hparts.mantissa hexponent

/-- The mantissa of a value between the midpoints is not zero. -/
theorem pos_of_near
    {m : Nat} {q : Int} {d : Nat × Int}
    (hpos : 0 < m)
    (h : Near m q (decimal d)) :
    0 < d.1 := by
  by_contra hzero
  have hd : d.1 = 0 := by omega
  have hlow := h.low
  have hu : (0 : ℚ) < 2 ^ (q - 2) := by positivity
  have hm : (1 : ℚ) ≤ m := by exact_mod_cast hpos
  have hgap : (lowGap m q : ℚ) ≤ 2 := by exact_mod_cast (lowGap_bounds m q).2
  rw [decimal, hd, Nat.cast_zero, zero_mul] at hlow
  nlinarith

end Double
end Homelab
