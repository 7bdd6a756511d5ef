import Lindenmayer.Numeral.Decimal
import Mathlib

/-!
# The numbers behind digits and bits

A decimal and a binary magnitude are pairs of natural numbers and exponents, and all that is done to
them is integer arithmetic in some unit. What is done to them means something only for the rational
numbers they stand for, and it is said with those: the leading digit of a decimal, the rounding of a
quotient, and the numbers that are nearer to a magnitude than to its neighbours.

## Intervals with or without their ends

A number rounds to the nearest one that there is, and half way between two of them to the even one.
So the numbers that round to a given one are an interval, with its ends if that one is even and
without them if it is odd. `Between` is this interval, for integers as for binary magnitudes.
-/

namespace Lindenmayer.Numeral

open Text (natural)

/-! ## Intervals -/

/-- A number lies in an interval, which has its ends or not. -/
structure Between (ends : Prop) (lower x upper : ℚ) : Prop where
  lower_le : lower ≤ x
  le_upper : x ≤ upper
  strict : ¬ends → lower < x ∧ x < upper

namespace Between

variable {ends : Prop} {lower x upper : ℚ}

theorem mul_iff {c : ℚ} (hc : 0 < c) :
    Between ends (lower * c) (x * c) (upper * c) ↔ Between ends lower x upper := by
  have hle : ∀ {a b : ℚ}, a * c ≤ b * c ↔ a ≤ b := mul_le_mul_iff_of_pos_right hc
  have hlt : ∀ {a b : ℚ}, a * c < b * c ↔ a < b := mul_lt_mul_iff_of_pos_right hc
  refine ⟨fun h ↦ ⟨hle.mp h.lower_le, hle.mp h.le_upper, fun hne ↦ ?_⟩,
    fun h ↦ ⟨hle.mpr h.lower_le, hle.mpr h.le_upper, fun hne ↦ ?_⟩⟩
  · exact ⟨hlt.mp (h.strict hne).1, hlt.mp (h.strict hne).2⟩
  · exact ⟨hlt.mpr (h.strict hne).1, hlt.mpr (h.strict hne).2⟩

theorem mono (h : Between ends lower x upper) {lower' : ℚ} (hle : lower' ≤ lower) :
    Between ends lower' x upper where
  lower_le := hle.trans h.lower_le
  le_upper := h.le_upper
  strict hne := ⟨hle.trans_lt (h.strict hne).1, (h.strict hne).2⟩

theorem natCast_iff [Decidable ends] {a b c : ℕ} :
    Between ends a b c ↔ if ends then a ≤ b ∧ b ≤ c else a < b ∧ b < c := by
  split_ifs with hends
  · refine ⟨fun h ↦ ⟨Nat.cast_le.mp h.lower_le, Nat.cast_le.mp h.le_upper⟩, fun h ↦ ?_⟩
    exact ⟨Nat.cast_le.mpr h.1, Nat.cast_le.mpr h.2, fun hne ↦ absurd hends hne⟩
  · have hlt : (a : ℚ) < b ∧ (b : ℚ) < c ↔ a < b ∧ b < c := and_congr Nat.cast_lt Nat.cast_lt
    refine ⟨fun h ↦ hlt.mp (h.strict hends), fun h ↦ ?_⟩
    exact ⟨Nat.cast_le.mpr h.1.le, Nat.cast_le.mpr h.2.le, fun _ ↦ hlt.mpr h⟩

end Between

/-! ## Rounded quotients -/

theorem roundDiv_of_lt {tie : Tie} {num den : ℕ} (h : 2 * (num % den) < den) :
    roundDiv tie num den = num / den := by
  unfold roundDiv
  rw [compare_lt_iff_lt.mpr h]

theorem roundDiv_of_gt {tie : Tie} {num den : ℕ} (h : den < 2 * (num % den)) :
    roundDiv tie num den = num / den + 1 := by
  unfold roundDiv
  rw [compare_gt_iff_gt.mpr h]

theorem roundDiv_even_of_eq {num den : ℕ} (h : 2 * (num % den) = den) :
    roundDiv .even num den = num / den + num / den % 2 := by
  unfold roundDiv
  rw [compare_eq_iff_eq.mpr h]

theorem roundDiv_up_of_eq {num den : ℕ} (h : 2 * (num % den) = den) :
    roundDiv .up num den = num / den + 1 := by
  unfold roundDiv
  rw [compare_eq_iff_eq.mpr h]

theorem roundDiv_even_eq {num den s : ℕ} (hden : 0 < den)
    (h : Between (s % 2 = 0) (s - 1 / 2) (num / den) (s + 1 / 2)) :
    roundDiv .even num den = s := by
  have hpos : (0 : ℚ) < den := Nat.cast_pos.mpr hden
  have hlower : 2 * (s * den) ≤ 2 * num + den := by
    have := (le_div_iff₀ hpos).mp h.lower_le
    exact_mod_cast (by linarith : 2 * ((s : ℚ) * den) ≤ 2 * num + den)
  have hupper : 2 * num ≤ 2 * (s * den) + den := by
    have := (div_le_iff₀ hpos).mp h.le_upper
    exact_mod_cast (by linarith : 2 * (num : ℚ) ≤ 2 * (s * den) + den)
  have hstrict : s % 2 ≠ 0 → 2 * (s * den) < 2 * num + den ∧ 2 * num < 2 * (s * den) + den := by
    intro hodd
    obtain ⟨hl, hu⟩ := h.strict hodd
    rw [lt_div_iff₀ hpos] at hl
    rw [div_lt_iff₀ hpos] at hu
    constructor
    · exact_mod_cast (by linarith : 2 * ((s : ℚ) * den) < 2 * num + den)
    · exact_mod_cast (by linarith : 2 * (num : ℚ) < 2 * (s * den) + den)
  have hnum := Nat.div_add_mod' num den
  have hmod := Nat.mod_lt num hden
  have hle : num / den ≤ s := by
    by_contra hlt
    have hmul : (s + 1) * den ≤ num / den * den := Nat.mul_le_mul_right den (not_le.mp hlt)
    rw [Nat.add_one_mul] at hmul
    omega
  have hge : s ≤ num / den + 1 := by
    by_contra hlt
    have hmul : (num / den + 2) * den ≤ s * den := Nat.mul_le_mul_right den (not_le.mp hlt)
    rw [Nat.add_mul] at hmul
    omega
  have hsucc : (num / den + 1) * den = num / den * den + den := Nat.add_one_mul _ _
  have hcase : s = num / den ∨ s = num / den + 1 := by omega
  rcases lt_trichotomy (2 * (num % den)) den with hr | hr | hr
  · rw [roundDiv_of_lt hr]
    rcases hcase with rfl | rfl
    · rfl
    · omega
  · rw [roundDiv_even_of_eq hr]
    rcases hcase with rfl | rfl
    · omega
    · omega
  · rw [roundDiv_of_gt hr]
    rcases hcase with rfl | rfl
    · omega
    · rfl

/-- The integer that a quotient is rounded to is the one that it is nearest to. -/
theorem between_roundDiv {num den : ℕ} (hden : 0 < den) :
    Between (roundDiv .even num den % 2 = 0) (roundDiv .even num den - 1 / 2) (num / den)
      (roundDiv .even num den + 1 / 2) := by
  have hpos : (0 : ℚ) < den := Nat.cast_pos.mpr hden
  have hquotient : (num : ℚ) / den = (num / den : ℕ) + (num % den : ℕ) / den := by
    rw [div_eq_iff hpos.ne', add_mul, div_mul_cancel₀ _ hpos.ne']
    exact_mod_cast (Nat.div_add_mod' num den).symm
  have hnonneg : (0 : ℚ) ≤ (num % den : ℕ) / den := by positivity
  have hlt : ((num % den : ℕ) : ℚ) / den < 1 := by
    rw [div_lt_one hpos]
    exact_mod_cast Nat.mod_lt num hden
  rcases lt_trichotomy (2 * (num % den)) den with h | h | h
  · have hhalf : ((num % den : ℕ) : ℚ) / den < 1 / 2 := by
      rw [div_lt_div_iff₀ hpos two_pos]
      exact_mod_cast (by omega : num % den * 2 < 1 * den)
    rw [roundDiv_of_lt h, hquotient]
    exact ⟨by linarith, by linarith, fun _ ↦ ⟨by linarith, by linarith⟩⟩
  · have hhalf : ((num % den : ℕ) : ℚ) / den = 1 / 2 := by
      rw [div_eq_div_iff hpos.ne' two_ne_zero]
      exact_mod_cast (by omega : num % den * 2 = 1 * den)
    have heven : (num / den + num / den % 2) % 2 = 0 := by omega
    have hle : ((num / den % 2 : ℕ) : ℚ) ≤ 1 := by
      exact_mod_cast Nat.le_of_lt_succ (Nat.mod_lt (num / den) two_pos)
    have hge : (0 : ℚ) ≤ (num / den % 2 : ℕ) := Nat.cast_nonneg _
    rw [roundDiv_even_of_eq h, hquotient, hhalf, Nat.cast_add]
    exact ⟨by linarith, by linarith, fun hodd ↦ absurd heven hodd⟩
  · have hhalf : 1 / 2 < ((num % den : ℕ) : ℚ) / den := by
      rw [div_lt_div_iff₀ two_pos hpos]
      exact_mod_cast (by omega : 1 * den < num % den * 2)
    rw [roundDiv_of_gt h, hquotient, Nat.cast_add, Nat.cast_one]
    exact ⟨by linarith, by linarith, fun _ ↦ ⟨by linarith, by linarith⟩⟩

/-! ## Decimals -/

theorem cast_powerOfTen (n : ℕ) : (powerOfTen n : ℚ) = 10 ^ n := by
  rw [powerOfTen, Nat.pow_eq, Nat.cast_pow, Nat.cast_ofNat]

theorem powerOfTen_pos (n : ℕ) : 0 < powerOfTen n := Nat.pow_pos (by decide)

/-- The number that a decimal stands for. -/
def Decimal.value (d : Decimal) : ℚ := d.coefficient * 10 ^ d.exponent

theorem lt_pow_length_natural (n : ℕ) : n < 10 ^ (natural n).length :=
  (Nat.length_toDigits_le_iff (by decide) Nat.length_toDigits_pos).mp le_rfl

theorem pow_length_natural_le {n : ℕ} (h : 0 < n) : 10 ^ ((natural n).length - 1) ≤ n := by
  by_contra hlt
  rw [not_le] at hlt
  rcases Nat.eq_zero_or_pos ((natural n).length - 1) with hzero | hpos
  · rw [hzero, pow_zero] at hlt
    omega
  · have := (Nat.length_toDigits_le_iff (by decide) hpos).mpr hlt
    have hle : (natural n).length ≤ (natural n).length - 1 := this
    omega

theorem Decimal.value_lt (d : Decimal) : d.value < 10 ^ (d.order + 1) := by
  have hlength : d.order + 1 = (natural d.coefficient).length + d.exponent := by
    rw [order]
    ring
  have hlt : (d.coefficient : ℚ) < 10 ^ (natural d.coefficient).length := by
    exact_mod_cast lt_pow_length_natural d.coefficient
  rw [value, hlength, zpow_add₀ (by norm_num), zpow_natCast]
  gcongr

theorem Decimal.le_value {d : Decimal} (h : 0 < d.coefficient) : 10 ^ d.order ≤ d.value := by
  have hpos : 0 < (natural d.coefficient).length := Nat.length_toDigits_pos
  have hlength : d.order = ((natural d.coefficient).length - 1 : ℕ) + d.exponent := by
    rw [order]
    omega
  have hle : (10 : ℚ) ^ ((natural d.coefficient).length - 1) ≤ d.coefficient := by
    exact_mod_cast pow_length_natural_le h
  rw [value, hlength, zpow_add₀ (by norm_num), zpow_natCast]
  gcongr

/-! ## Magnitudes -/

namespace Magnitude

variable (m : Magnitude)

/-- The number that a magnitude stands for. -/
def value : ℚ := m.significand * 2 ^ m.exponent

/-- The part of a unit of the significand that numbers below a magnitude may be away from it. -/
def below : ℚ := if m.narrowBelow then 1 / 4 else 1 / 2

theorem below_pos : 0 < m.below := by
  rw [below]
  split <;> norm_num

theorem below_le : m.below ≤ 1 / 2 := by
  rw [below]
  split <;> norm_num

/-- A number is nearer to a magnitude than to its neighbours, or half way to one of them while the
significand is even. -/
def Takes (q : ℚ) : Prop :=
  Between (m.significand % 2 = 0) ((m.significand - m.below) * 2 ^ m.exponent) q
    ((m.significand + 1 / 2) * 2 ^ m.exponent)

theorem cast_unit : (m.unit : ℚ) = 2 ^ m.exponent * 10 ^ m.places := by
  have hunit : m.unit = 5 ^ m.places * 2 ^ m.exponent.toNat := Nat.shiftLeft_eq _ _
  have htwo : (2 : ℚ) ^ m.exponent.toNat = 2 ^ m.exponent * 2 ^ m.places := by
    rw [← zpow_natCast, ← zpow_natCast, ← zpow_add₀ two_ne_zero, places]
    congr 1
    omega
  have hten : (10 : ℚ) ^ m.places = 2 ^ m.places * 5 ^ m.places := by
    rw [← mul_pow]
    norm_num
  rw [hunit, hten, Nat.cast_mul, Nat.cast_pow, Nat.cast_pow, Nat.cast_ofNat, Nat.cast_ofNat, htwo]
  ring

/-- A number of units of the last place is held exactly if it is taken. -/
theorem holds_iff (hpos : 0 < m.significand) (units : ℕ) :
    m.holds units = true ↔ m.Takes ((units : ℚ) * 10 ^ (-m.places : ℤ)) := by
  have hscale : (0 : ℚ) < 4 * 10 ^ m.places := by positivity
  have hbelow : (m.significand - m.below) * 2 ^ m.exponent * (4 * 10 ^ m.places) =
      ((4 * m.significand - if m.narrowBelow then 1 else 2) * m.unit : ℕ) := by
    rw [Nat.cast_mul, Nat.cast_sub (by split <;> omega), cast_unit, below]
    split <;> push_cast <;> ring
  have habove : ((m.significand : ℚ) + 1 / 2) * 2 ^ m.exponent * (4 * 10 ^ m.places) =
      ((4 * m.significand + 2) * m.unit : ℕ) := by
    rw [Nat.cast_mul, cast_unit]
    push_cast
    ring
  have hunits : (units : ℚ) * 10 ^ (-m.places : ℤ) * (4 * 10 ^ m.places) = (4 * units : ℕ) := by
    rw [zpow_neg, zpow_natCast]
    push_cast
    field_simp
  rw [Takes, ← Between.mul_iff hscale, hbelow, habove, hunits, Between.natCast_iff, holds]
  by_cases heven : m.significand % 2 = 0
  · rw [if_pos heven, if_pos heven, Bool.and_eq_true, decide_eq_true_iff, decide_eq_true_iff]
  · rw [if_neg heven, if_neg heven, Bool.and_eq_true, decide_eq_true_iff, decide_eq_true_iff]

end Magnitude

end Lindenmayer.Numeral
