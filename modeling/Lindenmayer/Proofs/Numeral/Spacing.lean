import Lindenmayer.Proofs.Numeral.Significant

/-!
# Six digits and single precision

Two grids of different radix lie over the same numbers: the decimals with six digits and the
magnitudes of single precision. A magnitude is rounded to a decimal and this one to a magnitude
again. The second magnitude need not be the first one, but it is rounded to the same decimal.

## Which grid is finer

The magnitudes are closer to each other than the decimals wherever a magnitude has all its bits:
then half of their distance is less than half of the distance of the decimals, below a power of ten
too, and what a decimal is rounded to stays with it. Subnormal magnitudes have one distance, and
below `10 ^ -39` the decimals are closer to each other than that; there the decimal is rounded back
to the magnitude it comes from. Between the two regions stands `10 ^ -39` itself, with decimals
below it that are closer than the magnitudes and decimals above it that are not. It is rounded to
a greater magnitude, so that only the decimals above it matter.
-/

namespace Lindenmayer.Numeral

/-! ## Magnitudes that take a number -/

theorem exists_between {q : ℚ} (h : 0 ≤ q) :
    ∃ s : ℕ, Between (s % 2 = 0) (s - 1 / 2) q (s + 1 / 2) := by
  have hq : (q.num.toNat : ℚ) / q.den = q := by
    have hnum : ((q.num.toNat : ℤ) : ℚ) = q.num := by
      rw [Int.toNat_of_nonneg (Rat.num_nonneg.mpr h)]
    rw [← Int.cast_natCast, hnum, Rat.num_div_den]
  have hbetween := @between_roundDiv q.num.toNat q.den q.den_pos
  rw [hq] at hbetween
  exact ⟨_, hbetween⟩

theorem exists_binade {q : ℚ} (h : 0 < q) : ∃ binade : ℕ,
    q < 2 ^ 24 * 2 ^ (-149 + binade : ℤ) ∧ (0 < binade → 2 ^ 23 * 2 ^ (-149 + binade : ℤ) ≤ q) := by
  have hlow : (2 : ℚ) ^ Int.log 2 q ≤ q := Int.zpow_log_le_self (by norm_num) h
  have hhigh : q < (2 : ℚ) ^ (Int.log 2 q + 1) := Int.lt_zpow_succ_log_self (by norm_num) q
  generalize Int.log 2 q = log at hlow hhigh
  have hpow : ∀ (n : ℕ) (e : ℤ), (2 : ℚ) ^ n * 2 ^ e = 2 ^ (n + e) := by
    intro n e
    rw [← zpow_natCast, ← zpow_add₀ two_ne_zero]
  refine ⟨(log + 126).toNat, ?_, fun hpos ↦ ?_⟩
  · rw [hpow]
    exact hhigh.trans_le (zpow_le_zpow_right₀ one_le_two (by push_cast; omega))
  · rw [hpow]
    exact (zpow_le_zpow_right₀ one_le_two (by push_cast; omega)).trans hlow

section Binade

variable {binade s : ℕ} {q : ℚ}

theorem exists_takes_of_lt (hpos : 0 < s) (hlt : s < 2 ^ 24) (hbinade : binade < 254)
    (hnormal : 0 < binade → 2 ^ 23 ≤ s) (hle : 0 < binade → 2 ^ 23 * 2 ^ (-149 + binade : ℤ) ≤ q)
    (h : Between (s % 2 = 0) ((s - 1 / 2) * 2 ^ (-149 + binade : ℤ)) q
      ((s + 1 / 2) * 2 ^ (-149 + binade : ℤ))) :
    ∃ m, single.Contains m binade ∧ m.Takes q := by
  refine ⟨⟨s, -149 + binade, decide (0 < binade ∧ s = 2 ^ 23)⟩, ⟨rfl, hpos, hlt, hnormal,
    decide_eq_true_iff, ?_⟩, ?_⟩
  · change binade * 2 ^ 23 + s < 255 * 2 ^ 23
    omega
  · rw [Magnitude.Takes, Magnitude.below]
    dsimp only
    by_cases hleast : 0 < binade ∧ s = 2 ^ 23
    · obtain ⟨hbinade, rfl⟩ := hleast
      have hlower := hle hbinade
      have hunit : (0 : ℚ) < 2 ^ (-149 + binade : ℤ) := by positivity
      refine ⟨?_, h.le_upper, fun hodd ↦ absurd (by norm_num) hodd⟩
      rw [if_pos (decide_eq_true ⟨hbinade, rfl⟩)]
      push_cast
      linarith
    · rwa [if_neg (by simpa using hleast)]

theorem exists_takes_of_carry (hbinade : binade < 253)
    (hlow : (2 ^ 24 - 1 / 2) * 2 ^ (-149 + binade : ℤ) ≤ q)
    (hhigh : q < 2 ^ 24 * 2 ^ (-149 + binade : ℤ)) :
    ∃ m, single.Contains m (binade + 1) ∧ m.Takes q := by
  refine ⟨⟨2 ^ 23, -149 + (binade + 1 : ℕ), true⟩, ⟨rfl, by norm_num,
    Nat.pow_lt_pow_succ one_lt_two, fun _ ↦ le_rfl, iff_of_true rfl ⟨binade.succ_pos, rfl⟩, ?_⟩, ?_⟩
  · change (binade + 1) * 2 ^ 23 + 2 ^ 23 < 255 * 2 ^ 23
    omega
  · have hunit : (2 : ℚ) ^ (-149 + (binade + 1 : ℕ) : ℤ) = 2 * 2 ^ (-149 + binade : ℤ) := by
      rw [Nat.cast_add, Nat.cast_one, ← add_assoc, zpow_add_one₀ two_ne_zero, mul_comm]
    have hpos : (0 : ℚ) < 2 ^ (-149 + binade : ℤ) := by positivity
    have hsignificand : ((2 ^ 23 : ℕ) : ℚ) = 2 ^ 23 := by norm_num
    rw [Magnitude.Takes, Magnitude.below, if_pos rfl, hunit, hsignificand]
    exact ⟨by linarith, by linarith, fun hodd ↦ absurd (by norm_num) hodd⟩

end Binade

/-- **Every number in the range of single precision is rounded to a magnitude.** -/
theorem exists_takes {q : ℚ} (hlow : 2 ^ (-150 : ℤ) < q)
    (hhigh : q < (2 ^ 24 - 1 / 2) * 2 ^ (104 : ℤ)) :
    ∃ m binade, single.Contains m binade ∧ m.Takes q := by
  have hpos : 0 < q := lt_trans (by positivity) hlow
  obtain ⟨binade, hlt, hle⟩ := exists_binade hpos
  have hunit : (0 : ℚ) < 2 ^ (-149 + binade : ℤ) := by positivity
  have hbinade : binade < 254 := by
    by_contra hge
    have hpow : (2 : ℚ) ^ (105 : ℤ) ≤ 2 ^ (-149 + binade : ℤ) :=
      zpow_le_zpow_right₀ one_le_two (by omega)
    have hle := hle (by omega)
    norm_num at hpow hhigh
    linarith
  obtain ⟨s, hs⟩ := exists_between (div_pos hpos hunit).le
  rw [← Between.mul_iff hunit, div_mul_cancel₀ _ hunit.ne'] at hs
  have hupper : s ≤ 2 ^ 24 := by
    have hmul := lt_of_mul_lt_mul_right (hs.lower_le.trans_lt hlt) hunit.le
    by_contra hgt
    have hsucc : (2 : ℚ) ^ 24 + 1 ≤ s := by exact_mod_cast not_le.mp hgt
    linarith
  have hnormal : 0 < binade → 2 ^ 23 ≤ s := by
    intro hbinade
    have hmul := le_of_mul_le_mul_right ((hle hbinade).trans hs.le_upper) hunit
    by_contra hlt
    have hsucc : (s : ℚ) + 1 ≤ 2 ^ 23 := by exact_mod_cast not_le.mp hlt
    linarith
  have hspos : 0 < s := by
    rcases Nat.eq_zero_or_pos binade with rfl | hbinade
    · by_contra hzero
      obtain rfl : s = 0 := by omega
      have hhalf := hs.le_upper
      norm_num at hlow hhalf
      linarith
    · have hge := hnormal hbinade
      omega
  rcases hupper.lt_or_eq with hlt | rfl
  · obtain ⟨m, hm⟩ := exists_takes_of_lt hspos hlt hbinade hnormal hle hs
    exact ⟨m, binade, hm⟩
  · have hlower := hs.lower_le
    push_cast at hlower
    have hne : binade ≠ 253 := by
      rintro rfl
      norm_num at hlower hhigh
      linarith
    obtain ⟨m, hm⟩ := exists_takes_of_carry (by omega) hlower hlt
    exact ⟨m, binade + 1, hm⟩

theorem Format.Contains.value_le {m : Magnitude} {binade : ℕ} (hm : single.Contains m binade) :
    m.value ≤ (2 ^ 24 - 1) * 2 ^ (104 : ℤ) := by
  have hlt : m.significand < 2 ^ 24 := hm.lt
  have hle : (m.significand : ℚ) ≤ 2 ^ 24 - 1 := by
    rw [le_sub_iff_add_le]
    exact_mod_cast hlt
  have hexponent := hm.single_exponent.2
  rw [Magnitude.value]
  gcongr
  exact one_le_two

theorem Magnitude.Takes.abs_sub_le {m : Magnitude} {q : ℚ} (h : m.Takes q) :
    |m.value - q| ≤ 2 ^ m.exponent / 2 := by
  have hunit : (0 : ℚ) < 2 ^ m.exponent := by positivity
  have hbelow := mul_le_mul_of_nonneg_right m.below_le hunit.le
  have hlower := h.lower_le
  have hupper := h.le_upper
  rw [Magnitude.value]
  exact abs_le.mpr ⟨by linarith, by linarith⟩

theorem Magnitude.takes_of_abs_lt {m : Magnitude} {q : ℚ} (hnarrow : m.narrowBelow = false)
    (h : |m.value - q| < 2 ^ m.exponent / 2) : m.Takes q := by
  obtain ⟨hlower, hupper⟩ := abs_lt.mp h
  rw [Magnitude.value] at hlower hupper
  rw [Takes, below, hnarrow, if_neg Bool.false_ne_true]
  exact ⟨by linarith, by linarith, fun _ ↦ ⟨by linarith, by linarith⟩⟩

/-! ## Decimals and magnitudes -/

namespace SixDigits

variable {d e : SixDigits} {m : Magnitude} {binade : ℕ} {q : ℚ}

theorem Takes.abs_sub_le (h : d.Takes q) : |q - d.value| ≤ d.unit / 2 := by
  have hbelow := d.below_le_unit
  exact abs_le.mpr ⟨by linarith [h.lower_le], by linarith [h.le_upper]⟩

theorem takes_of_abs_lt (h : |q - d.value| < d.below / 2) : d.Takes q := by
  have hbelow := d.below_le_unit
  obtain ⟨hlower, hupper⟩ := abs_lt.mp h
  exact ⟨by linarith, by linarith, fun _ ↦ ⟨by linarith, by linarith⟩⟩

theorem Takes.value_le (h : d.Takes q) (hlt : q < e.value + e.unit / 2) : d.value ≤ e.value := by
  by_contra hgt
  have hbelow := value_add_below_le_value (not_le.mp hgt)
  have hunit := value_add_unit_le_value (not_le.mp hgt)
  linarith [h.lower_le]

theorem value_le_below (d : SixDigits) : d.value ≤ 10 ^ 6 * d.below := by
  have hunit := d.unit_pos
  by_cases hpower : d.coefficient = 10 ^ 5
  · rw [below, if_pos hpower, d.value_eq_of_power hpower]
    linarith
  · rw [below, if_neg hpower]
    linarith [d.value_add_unit_le]

theorem unit_lt_below (htakes : m.Takes d.value) (hnormal : 2 ^ 23 ≤ m.significand) :
    2 ^ m.exponent < d.below := by
  have hunit : (0 : ℚ) < 2 ^ m.exponent := by positivity
  have hbelow := m.below_le
  have hsignificand : (2 : ℚ) ^ 23 - 1 / 2 ≤ m.significand - m.below := by
    have hcast : (2 : ℚ) ^ 23 ≤ m.significand := by exact_mod_cast hnormal
    linarith
  have hmul := (mul_le_mul_of_nonneg_right hsignificand hunit.le).trans htakes.lower_le
  linarith [d.value_le_below]

/-- Where the magnitudes are closer to each other than the decimals, a magnitude that a decimal is
rounded to stays with it. -/
theorem takes_value (htakes : m.Takes d.value) (hlt : 2 ^ m.exponent < d.below) :
    d.Takes m.value := by
  refine takes_of_abs_lt ?_
  linarith [htakes.abs_sub_le]

/-- Below `10 ^ -39` the decimals are closer to each other than the magnitudes, and what a magnitude
is rounded to is rounded back to it. -/
theorem takes_value_of_order_le (hm : single.Contains m binade) (htakes : d.Takes m.value)
    (horder : d.order ≤ -40) : m.Takes d.value := by
  have hunit : d.unit ≤ 10 ^ (-45 : ℤ) := zpow_le_zpow_right₀ (by norm_num) (by omega)
  have hspacing : (10 : ℚ) ^ (-45 : ℤ) < 2 ^ m.exponent := by
    calc (10 : ℚ) ^ (-45 : ℤ) < 2 ^ (-149 : ℤ) := by norm_num
      _ ≤ 2 ^ m.exponent := zpow_le_zpow_right₀ one_le_two hm.single_exponent.1
  have hnarrow : m.narrowBelow = false := by
    by_contra htrue
    obtain ⟨hbinade, hsignificand⟩ := hm.narrow.mp (by simpa using htrue)
    have hexponent : m.exponent = -149 + binade := hm.exponent
    have hlarge : (2 : ℚ) ^ 23 * 2 ^ (-148 : ℤ) ≤ m.value := by
      have hcast : (m.significand : ℚ) = 2 ^ 23 := by exact_mod_cast hsignificand
      have hpow : (2 : ℚ) ^ (-148 : ℤ) ≤ 2 ^ m.exponent :=
        zpow_le_zpow_right₀ one_le_two (by omega)
      rw [Magnitude.value, hcast]
      gcongr
    have hsmall : d.value < 10 ^ (-39 : ℤ) :=
      d.value_lt.trans_le (zpow_le_zpow_right₀ (by norm_num) (by omega))
    have hnumbers : (10 : ℚ) ^ (-39 : ℤ) + 10 ^ (-45 : ℤ) < 2 ^ 23 * 2 ^ (-148 : ℤ) := by norm_num
    linarith [htakes.le_upper, d.unit_pos]
  refine Magnitude.takes_of_abs_lt hnarrow ?_
  linarith [htakes.abs_sub_le]

/-- The one decimal that has nearer neighbours below it than the magnitudes are is rounded to a
greater magnitude. -/
theorem takes_value_of_eq (htakes : m.Takes d.value) (hexponent : m.exponent = -149)
    (horder : d.order = -39) (hcoefficient : d.coefficient = 10 ^ 5) : d.Takes m.value := by
  have hunit : d.unit = 10 ^ (-44 : ℤ) := by rw [unit, horder]; rfl
  have hvalue : d.value = 10 ^ (-39 : ℤ) := by
    rw [d.value_eq_of_power hcoefficient, hunit]
    norm_num
  have hsignificand : 713624 ≤ m.significand := by
    have hupper := htakes.le_upper
    rw [hvalue, hexponent] at hupper
    norm_num at hupper
    have hgt : (713623 : ℚ) < m.significand := by linarith
    exact_mod_cast hgt
  have hle : d.value ≤ m.value := by
    have hcast : (713624 : ℚ) ≤ m.significand := by exact_mod_cast hsignificand
    calc d.value ≤ 713624 * 2 ^ (-149 : ℤ) := by rw [hvalue]; norm_num
      _ ≤ m.value := by
        rw [Magnitude.value, hexponent]
        gcongr
  have hlt : m.value < d.value + d.unit / 2 := by
    have hdist := (abs_le.mp htakes.abs_sub_le).2
    rw [hexponent] at hdist
    have hnumbers : (2 : ℚ) ^ (-149 : ℤ) < 10 ^ (-44 : ℤ) := by norm_num
    rw [hunit]
    linarith
  have hbelow := d.below_pos
  exact ⟨by linarith, hlt.le, fun _ ↦ ⟨by linarith, hlt⟩⟩

theorem takes_value_of_subnormal (htakes : m.Takes d.value) (hexponent : m.exponent = -149)
    (horder : -39 ≤ d.order) : d.Takes m.value := by
  by_cases heq : d.order = -39 ∧ d.coefficient = 10 ^ 5
  · exact takes_value_of_eq htakes hexponent heq.1 heq.2
  · refine takes_value htakes ?_
    have hspacing : (10 : ℚ) ^ (-44 : ℤ) ≤ d.below := by
      rw [below, unit]
      split_ifs with hpower
      · have hle : (10 : ℚ) ^ (-43 : ℤ) ≤ 10 ^ (d.order - 5) :=
          zpow_le_zpow_right₀ (by norm_num) (by omega)
        norm_num at hle ⊢
        linarith
      · exact zpow_le_zpow_right₀ (by norm_num) (by omega)
    rw [hexponent]
    exact lt_of_lt_of_le (by norm_num) hspacing

/-- The decimal that the greatest magnitude is rounded to, which is below it. -/
def greatest : SixDigits := ⟨340282, 38, by norm_num, by norm_num⟩

theorem Takes.value_lt_overflow (hm : single.Contains m binade) (h : d.Takes m.value) :
    d.value < (2 ^ 24 - 1 / 2) * 2 ^ (104 : ℤ) := by
  have hmax := hm.value_le
  have hvalue : greatest.value = 340282 * 10 ^ (33 : ℤ) := rfl
  have hunit : greatest.unit = 10 ^ (33 : ℤ) := rfl
  have hle : d.value ≤ greatest.value := by
    refine h.value_le ?_
    rw [hvalue, hunit]
    norm_num at hmax ⊢
    linarith
  rw [hvalue] at hle
  norm_num at hle ⊢
  linarith

/-- **There and back.** The decimal that a magnitude is rounded to is rounded to a magnitude, and
this one is rounded to the decimal again. -/
theorem Takes.exists_magnitude (hm : single.Contains m binade) (h : d.Takes m.value) :
    ∃ m' binade', single.Contains m' binade' ∧ m'.Takes d.value ∧ d.Takes m'.value := by
  rcases le_or_gt d.order (-40) with hfine | hcoarse
  · exact ⟨m, binade, hm, takes_value_of_order_le hm h hfine, h⟩
  · have hlow : 2 ^ (-150 : ℤ) < d.value := by
      calc (2 : ℚ) ^ (-150 : ℤ) < 10 ^ (-39 : ℤ) := by norm_num
        _ ≤ 10 ^ d.order := zpow_le_zpow_right₀ (by norm_num) (by omega)
        _ ≤ d.value := d.pow_order_le_value
    obtain ⟨m', binade', hm', htakes⟩ := exists_takes hlow (h.value_lt_overflow hm)
    refine ⟨m', binade', hm', htakes, ?_⟩
    rcases le_or_gt (2 ^ 23) m'.significand with hnormal | hsubnormal
    · exact takes_value htakes (unit_lt_below htakes hnormal)
    · have hbinade : binade' = 0 := by
        by_contra hne
        exact absurd (hm'.normal (Nat.pos_of_ne_zero hne)) (not_le.mpr hsubnormal)
      have hexponent : m'.exponent = -149 := by
        rw [hm'.exponent, hbinade]
        rfl
      exact takes_value_of_subnormal htakes hexponent (by omega)

end SixDigits

end Lindenmayer.Numeral
