import Lindenmayer.Proofs.Numeral.Nearest
import Lindenmayer.Proofs.Numeral.Shortest

/-!
# Six significant digits

The decimals with six digits are a grid that gets coarser by a factor of ten at every power of ten.
A number is rounded to the one that is nearest to it, and half way between two of them to the one
whose last digit is even.

## Two definitions of rounding

`Rounds` says this for all decimals of six digits at once. `Takes` says it with the two neighbours
of one of them: what lies between the midpoints to the neighbours. The lower neighbour of a power of
ten is ten times as near as the upper one, and this is the only place where the grid shows. The last
digits of neighbours are never both even, also where a nine is followed by a power of ten; therefore
no number is rounded to two decimals.
-/

namespace Lindenmayer.Numeral

theorem ten_zpow_eq (e : ℤ) : (10 : ℚ) ^ e = 10 ^ 5 * 10 ^ (e - 5) := by
  rw [← zpow_natCast, ← zpow_add₀ (by norm_num)]
  congr 1
  push_cast
  ring

theorem ten_zpow_succ_eq (e : ℤ) : (10 : ℚ) ^ (e + 1) = 10 ^ 6 * 10 ^ (e - 5) := by
  rw [zpow_add_one₀ (by norm_num), ten_zpow_eq]
  ring

/-- A positive decimal with six digits, the first of them not zero. -/
@[ext]
structure SixDigits where
  /-- The digits, as one number. -/
  coefficient : ℕ
  /-- The power of ten of the first digit. -/
  order : ℤ
  le_coefficient : 10 ^ 5 ≤ coefficient
  coefficient_lt : coefficient < 10 ^ 6

namespace SixDigits

variable (d : SixDigits) {e : SixDigits} {q : ℚ}

/-- One unit of the last digit, which is the distance to the next decimal above. -/
def unit : ℚ := 10 ^ (d.order - 5)

/-- The number that the digits stand for. -/
def value : ℚ := d.coefficient * d.unit

/-- The distance to the next decimal below. -/
def below : ℚ := if d.coefficient = 10 ^ 5 then d.unit / 10 else d.unit

theorem coefficient_pos : 0 < d.coefficient := lt_of_lt_of_le (by norm_num) d.le_coefficient

theorem unit_pos : 0 < d.unit := zpow_pos (by norm_num) _

theorem below_pos : 0 < d.below := by
  have hunit := d.unit_pos
  rw [below]
  split_ifs <;> linarith

theorem below_le_unit : d.below ≤ d.unit := by
  have hunit := d.unit_pos
  rw [below]
  split_ifs <;> linarith

theorem value_add_half : d.value + d.unit / 2 = (d.coefficient + 1 / 2) * d.unit := by
  rw [value]
  ring

theorem value_sub_half : d.value - d.unit / 2 = (d.coefficient - 1 / 2) * d.unit := by
  rw [value]
  ring

theorem value_eq_of_power (h : d.coefficient = 10 ^ 5) : d.value = 10 ^ 5 * d.unit := by
  rw [value, h, Nat.cast_pow, Nat.cast_ofNat]

/-! ## Powers of ten -/

theorem pow_order : (10 : ℚ) ^ d.order = 10 ^ 5 * d.unit := ten_zpow_eq d.order

theorem pow_order_le_value : (10 : ℚ) ^ d.order ≤ d.value := by
  have hle : (10 : ℚ) ^ 5 ≤ d.coefficient := by exact_mod_cast d.le_coefficient
  rw [pow_order, value]
  exact mul_le_mul_of_nonneg_right hle d.unit_pos.le

theorem pow_order_succ : (10 : ℚ) ^ (d.order + 1) = 10 ^ 6 * d.unit := ten_zpow_succ_eq d.order

theorem value_add_unit_le : d.value + d.unit ≤ 10 ^ 6 * d.unit := by
  have hlt : (d.coefficient : ℚ) + 1 ≤ 10 ^ 6 := by exact_mod_cast d.coefficient_lt
  calc d.value + d.unit = (d.coefficient + 1) * d.unit := by rw [value]; ring
    _ ≤ 10 ^ 6 * d.unit := mul_le_mul_of_nonneg_right hlt d.unit_pos.le

theorem value_lt : d.value < 10 ^ (d.order + 1) := by
  rw [pow_order_succ]
  linarith [d.value_add_unit_le, d.unit_pos]

variable {d}

theorem order_le (h : d.value ≤ e.value) : d.order ≤ e.order := by
  by_contra hlt
  have hpow : (10 : ℚ) ^ (e.order + 1) ≤ 10 ^ d.order :=
    zpow_le_zpow_right₀ (by norm_num) (by omega)
  linarith [e.value_lt, d.pow_order_le_value]

theorem value_injective : Function.Injective value := by
  intro d e h
  have horder : d.order = e.order := le_antisymm (order_le h.le) (order_le h.ge)
  have hunit : d.unit = e.unit := by rw [unit, unit, horder]
  rw [value, value, hunit] at h
  have hcoefficient := mul_right_cancel₀ e.unit_pos.ne' h
  exact SixDigits.ext (by exact_mod_cast hcoefficient) horder

/-! ## Neighbours -/

theorem value_add_unit_le_value (h : d.value < e.value) : d.value + d.unit ≤ e.value := by
  rcases (order_le h.le).lt_or_eq with hlt | heq
  · have hpow : (10 : ℚ) ^ (d.order + 1) ≤ 10 ^ e.order :=
      zpow_le_zpow_right₀ (by norm_num) (by omega)
    rw [pow_order_succ] at hpow
    linarith [d.value_add_unit_le, e.pow_order_le_value]
  · have hunit : e.unit = d.unit := by rw [unit, unit, heq]
    rw [value, value, hunit] at h
    have hlt := lt_of_mul_lt_mul_right h d.unit_pos.le
    have hle : (d.coefficient : ℚ) + 1 ≤ e.coefficient := by exact_mod_cast hlt
    calc d.value + d.unit = (d.coefficient + 1) * d.unit := by rw [value]; ring
      _ ≤ e.coefficient * d.unit := mul_le_mul_of_nonneg_right hle d.unit_pos.le
      _ = e.value := by rw [value, hunit]

theorem value_add_below_le_value (h : e.value < d.value) : e.value + d.below ≤ d.value := by
  rcases (order_le h.le).lt_or_eq with hlt | heq
  · have hunit : e.unit ≤ d.unit / 10 := by
      have hpow : (10 : ℚ) ^ (e.order - 5 + 1) ≤ 10 ^ (d.order - 5) :=
        zpow_le_zpow_right₀ (by norm_num) (by omega)
      rw [zpow_add_one₀ (by norm_num)] at hpow
      rw [unit, unit]
      linarith
    have hupper := e.value_add_unit_le
    by_cases hpower : d.coefficient = 10 ^ 5
    · have hvalue := d.value_eq_of_power hpower
      rw [below, if_pos hpower]
      linarith
    · have hsucc : 10 ^ 5 + 1 ≤ d.coefficient :=
        Nat.lt_of_le_of_ne d.le_coefficient (Ne.symm hpower)
      have hcoefficient : (10 : ℚ) ^ 5 + 1 ≤ d.coefficient := by exact_mod_cast hsucc
      have hvalue : (10 ^ 5 + 1) * d.unit ≤ d.value :=
        mul_le_mul_of_nonneg_right hcoefficient d.unit_pos.le
      rw [below, if_neg hpower]
      linarith [d.unit_pos]
  · have hunit : e.unit = d.unit := by rw [unit, unit, heq]
    exact le_trans (by linarith [d.below_le_unit]) (value_add_unit_le_value h)

/-- The next decimal above, where no digit is carried into a seventh one. -/
def next (d : SixDigits) (h : d.coefficient + 1 < 10 ^ 6) : SixDigits :=
  ⟨d.coefficient + 1, d.order, Nat.le_succ_of_le d.le_coefficient, h⟩

theorem value_next (d : SixDigits) (h : d.coefficient + 1 < 10 ^ 6) :
    (d.next h).value = d.value + d.unit := by
  change ((d.coefficient + 1 : ℕ) : ℚ) * d.unit = d.coefficient * d.unit + d.unit
  push_cast
  ring

/-! ## Rounding -/

/-- A number is rounded to the decimal of six digits that is nearest to it, and half way between two
of them to the one whose last digit is even. -/
structure Rounds (d : SixDigits) (q : ℚ) : Prop where
  nearest : ∀ e : SixDigits, |q - d.value| ≤ |q - e.value|
  even : ∀ e : SixDigits, e ≠ d → |q - d.value| = |q - e.value| → d.coefficient % 2 = 0

/-- A number lies between the midpoints to the neighbours of a decimal, or is one of them while the
last digit is even. -/
def Takes (d : SixDigits) (q : ℚ) : Prop :=
  Between (d.coefficient % 2 = 0) (d.value - d.below / 2) q (d.value + d.unit / 2)

/-- What lies between the midpoints to the neighbours is at least as near to a decimal as to any
other one; on the midpoints the last digit is even. -/
theorem Takes.rounds (h : d.Takes q) : d.Rounds q := by
  refine ⟨fun e ↦ ?_, fun e hne heq ↦ ?_⟩
  · rcases lt_trichotomy e.value d.value with hlt | hvalue | hgt
    · have hmid : d.value + e.value ≤ 2 * q := by
        linarith [h.lower_le, value_add_below_le_value hlt]
      have hdist := le_abs_self (q - e.value)
      exact abs_le.mpr ⟨by linarith, by linarith⟩
    · rw [hvalue]
    · have hmid : 2 * q ≤ d.value + e.value := by
        linarith [h.le_upper, value_add_unit_le_value hgt]
      have hdist := neg_abs_le (q - e.value)
      exact abs_le.mpr ⟨by linarith, by linarith⟩
  · by_contra hodd
    obtain ⟨hlower, hupper⟩ := h.strict hodd
    rcases abs_eq_abs.mp heq with hsame | hmid
    · exact hne (value_injective (sub_right_injective hsame.symm))
    · rcases lt_or_gt_of_ne (value_injective.ne hne) with hlt | hgt
      · linarith [value_add_below_le_value hlt]
      · linarith [value_add_unit_le_value hgt]

/-- No number is rounded to two decimals: half way between them one would have an odd last digit. -/
theorem Rounds.unique (hd : d.Rounds q) (he : e.Rounds q) : d = e := by
  -- the decimals are ordered, so that the next one above the lower can be looked at
  wlog hle : d.value ≤ e.value generalizing d e
  · exact (this he hd (le_of_not_ge hle)).symm
  by_contra hne
  have hlt : d.value < e.value := lt_of_le_of_ne hle (value_injective.ne hne)
  have hdist : |q - d.value| = |q - e.value| := le_antisymm (hd.nearest e) (he.nearest d)
  have heven := hd.even e (Ne.symm hne) hdist
  have hodd := he.even d hne hdist.symm
  have hmid : 2 * q = d.value + e.value := by
    rcases abs_eq_abs.mp hdist with hsame | hmid
    · linarith
    · linarith
  have hsucc : d.coefficient + 1 < 10 ^ 6 := by
    have hlt := d.coefficient_lt
    omega
  have hnext := d.value_next hsucc
  have hbound : (d.next hsucc).value ≤ e.value := hnext ▸ value_add_unit_le_value hlt
  rcases hbound.lt_or_eq with hbetween | heq
  · -- the next decimal would be nearer
    have hnear : |q - (d.next hsucc).value| < |q - d.value| := by
      rw [abs_of_pos (by linarith : 0 < q - d.value)]
      exact abs_lt.mpr ⟨by linarith, by linarith [d.unit_pos]⟩
    exact absurd (hd.nearest (d.next hsucc)) (not_le.mpr hnear)
  · obtain rfl : d.next hsucc = e := value_injective heq
    change (d.coefficient + 1) % 2 = 0 at hodd
    omega

end SixDigits

/-! ## Rounding at a place -/

theorem Decimal.order_eq {d : Decimal} {k : ℤ} (hpos : 0 < d.coefficient) (hle : 10 ^ k ≤ d.value)
    (hlt : d.value < 10 ^ (k + 1)) : d.order = k := by
  have hten : (1 : ℚ) < 10 := by norm_num
  have hupper := (zpow_lt_zpow_iff_right₀ hten).mp ((d.le_value hpos).trans_lt hlt)
  have hlower := (zpow_lt_zpow_iff_right₀ hten).mp (hle.trans_lt d.value_lt)
  omega

namespace Magnitude

variable (m : Magnitude) (place : ℤ)

theorem exists_quotient : ∃ num den : ℕ, 0 < den ∧ (num : ℚ) / den * 10 ^ place = m.value ∧
    m.roundTo .even place = ⟨roundDiv .even num den, place⟩ := by
  refine ⟨_, _, powerOfTen_pos _, ?_, rfl⟩
  have hquotient := Decimal.value_eq_div ⟨m.expansion, -(place + m.places)⟩
  rw [neg_neg] at hquotient
  rw [← hquotient, ← value_exact, exact, Decimal.value, Decimal.value, mul_assoc,
    ← zpow_add₀ (by norm_num)]
  congr 2
  ring

theorem roundTo_eq_iff {s : ℕ} : m.roundTo .even place = ⟨s, place⟩ ↔
    Between (s % 2 = 0) ((s - 1 / 2) * 10 ^ place) m.value ((s + 1 / 2) * 10 ^ place) := by
  obtain ⟨num, den, hden, hvalue, hround⟩ := m.exists_quotient place
  have hscale : (0 : ℚ) < 10 ^ place := by positivity
  rw [hround, ← hvalue, Between.mul_iff hscale]
  constructor
  · intro h
    obtain rfl : roundDiv .even num den = s := congrArg Decimal.coefficient h
    exact between_roundDiv hden
  · intro h
    rw [roundDiv_even_eq hden h]

end Magnitude

/-! ## Magnitudes in six digits -/

namespace SixDigits

/-- The digits, with the power of ten of the last one. -/
def toDecimal (d : SixDigits) : Decimal := ⟨d.coefficient, d.order - 5⟩

theorem order_toDecimal (d : SixDigits) : d.toDecimal.order = d.order :=
  Decimal.order_eq d.coefficient_pos d.pow_order_le_value d.value_lt

variable {d : SixDigits} {m : Magnitude} {q : ℚ}

theorem takes_of_between (hle : 10 ^ d.order ≤ q) (h : Between (d.coefficient % 2 = 0)
    ((d.coefficient - 1 / 2) * d.unit) q ((d.coefficient + 1 / 2) * d.unit)) : d.Takes q := by
  rw [← value_sub_half, ← value_add_half] at h
  by_cases hpower : d.coefficient = 10 ^ 5
  · rw [pow_order, ← d.value_eq_of_power hpower] at hle
    have hlower : d.value - d.below / 2 < q := by linarith [d.below_pos]
    exact ⟨hlower.le, h.le_upper, fun hodd ↦ ⟨hlower, (h.strict hodd).2⟩⟩
  · rwa [Takes, below, if_neg hpower]

theorem Takes.roundTo_eq (h : d.Takes m.value) :
    m.roundTo .even (d.order - 5) = d.toDecimal := by
  have hlower : d.value - d.unit / 2 ≤ d.value - d.below / 2 := by linarith [d.below_le_unit]
  have hbetween := Between.mono h hlower
  rw [value_sub_half, value_add_half] at hbetween
  rw [toDecimal, Magnitude.roundTo_eq_iff]
  exact hbetween

theorem bounds_of_between {ends : Prop} {c : ℕ} {e : ℤ} (hle : 10 ^ e ≤ q) (hlt : q < 10 ^ (e + 1))
    (h : Between ends ((c - 1 / 2) * 10 ^ (e - 5)) q ((c + 1 / 2) * 10 ^ (e - 5))) :
    10 ^ 5 ≤ c ∧ c ≤ 10 ^ 6 := by
  have hunit : (0 : ℚ) < 10 ^ (e - 5) := by positivity
  rw [ten_zpow_eq] at hle
  rw [ten_zpow_succ_eq] at hlt
  constructor
  · by_contra hlt
    have hsucc : (c : ℚ) + 1 ≤ 10 ^ 5 := by exact_mod_cast not_le.mp hlt
    linarith [le_of_mul_le_mul_right (hle.trans h.le_upper) hunit]
  · by_contra hgt
    have hsucc : (10 : ℚ) ^ 6 + 1 ≤ c := by exact_mod_cast not_le.mp hgt
    linarith [lt_of_mul_lt_mul_right (h.lower_le.trans_lt hlt) hunit.le]

/-- A carry into a seventh digit leaves a power of ten. The decimal below it is one unit of the
place of rounding away, so the midpoint between the two stays where it is. -/
theorem takes_of_carry {e : ℤ} (hle : (10 ^ 6 - 1 / 2) * 10 ^ (e - 5) ≤ q)
    (hlt : q < 10 ^ (e + 1)) : Takes ⟨10 ^ 5, e + 1, le_rfl, by norm_num⟩ q := by
  have hunit : (0 : ℚ) < 10 ^ (e - 5) := by positivity
  have hten : (10 : ℚ) ^ (e + 1 - 5) = 10 * 10 ^ (e - 5) := by
    rw [add_sub_right_comm, zpow_add_one₀ (by norm_num), mul_comm]
  rw [ten_zpow_succ_eq] at hlt
  rw [Takes, below, if_pos rfl, value_eq_of_power _ rfl, unit, hten]
  exact ⟨by linarith, by linarith, fun hodd ↦ absurd (by norm_num) hodd⟩

end SixDigits

/-- A magnitude is rounded to six digits below its leading one. A carry into a seventh digit leaves
a power of ten, which has six digits at the next place. -/
theorem Magnitude.exists_takes_significant {m : Magnitude} (hpos : 0 < m.significand) :
    ∃ d : SixDigits, d.Takes m.value ∧ (m.significant .even 6 = d.toDecimal ∨
      d.coefficient = 10 ^ 5 ∧ m.significant .even 6 = ⟨10 ^ 6, d.order - 6⟩) := by
  have hvalue : 0 < m.value := mul_pos (by exact_mod_cast hpos) (by positivity)
  have hcoefficient : 0 < m.exact.coefficient :=
    Decimal.coefficient_pos_of_value_pos (by rwa [value_exact])
  have hle := Decimal.le_value hcoefficient
  have hlt := m.exact.value_lt
  have hplace : m.significant .even 6 = m.roundTo .even (m.exact.order - 5) := by
    rw [significant]
    congr 1
    push_cast
    ring
  rw [value_exact] at hle hlt
  generalize m.exact.order = e at hle hlt hplace
  obtain ⟨c, hc⟩ : ∃ c, m.roundTo .even (e - 5) = ⟨c, e - 5⟩ := ⟨_, rfl⟩
  have hbetween := (m.roundTo_eq_iff (e - 5)).mp hc
  obtain ⟨hlower, hupper⟩ := SixDigits.bounds_of_between hle hlt hbetween
  rw [hplace, hc]
  rcases hupper.lt_or_eq with hsix | rfl
  · exact ⟨⟨c, e, hlower, hsix⟩, SixDigits.takes_of_between hle hbetween, Or.inl rfl⟩
  · have hlow := hbetween.lower_le
    rw [Nat.cast_pow, Nat.cast_ofNat] at hlow
    refine ⟨_, SixDigits.takes_of_carry hlow hlt, Or.inr ⟨rfl, ?_⟩⟩
    congr 1
    ring

end Lindenmayer.Numeral
