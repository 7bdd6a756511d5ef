import Lindenmayer.Numeral.Style
import Lindenmayer.Proofs.Numeral.Value
import Lindenmayer.Proofs.Source.Numeral

/-!
# Shortest digits

The shortest digits of a magnitude stand for a number that the magnitude takes. This is no matter of
how many digits there are: every grid that the search stops at has been tested at the points around
the magnitude, and the digits are one of the two, also where the rounding has to choose; and the
expansion, where the search stops at last, is the magnitude itself.

Trailing zeros of the coefficient are not written. They are powers of ten, and the order of the
decimal, which counts them, says how many they were.
-/

namespace Lindenmayer.Numeral

open Text (natural)

theorem roundDiv_eq_or (tie : Tie) (num den : ℕ) :
    roundDiv tie num den = num / den ∨ roundDiv tie num den = num / den + 1 := by
  rcases lt_trichotomy (2 * (num % den)) den with h | h | h
  · exact Or.inl (roundDiv_of_lt h)
  · rcases tie with - | -
    · rw [roundDiv_even_of_eq h]
      omega
    · exact Or.inr (roundDiv_up_of_eq h)
  · exact Or.inr (roundDiv_of_gt h)

/-! ## The search -/

namespace Magnitude

variable {m : Magnitude}

theorem takes_value (m : Magnitude) : m.Takes m.value := by
  have hunit : (0 : ℚ) < 2 ^ m.exponent := by positivity
  have hbelow := m.below_pos
  have hlt : (m.significand - m.below) * 2 ^ m.exponent < m.value := by
    rw [value]
    gcongr
    linarith
  have hgt : m.value < (m.significand + 1 / 2) * 2 ^ m.exponent := by
    rw [value]
    gcongr
    linarith
  exact ⟨hlt.le, hgt.le, fun _ ↦ ⟨hlt, hgt⟩⟩

theorem value_exact (m : Magnitude) : m.exact.value = m.value := by
  have hten : (10 : ℚ) ^ m.places ≠ 0 := by positivity
  rw [exact, Decimal.value, expansion, Nat.cast_mul, cast_unit, zpow_neg, zpow_natCast, value]
  field_simp

theorem takes_of_holds {coefficient place : ℕ} (hpos : 0 < m.significand)
    (h : m.holds (coefficient * powerOfTen place) = true) :
    m.Takes (Decimal.value ⟨coefficient, place - m.places⟩) := by
  have hvalue : Decimal.value ⟨coefficient, place - m.places⟩ =
      ((coefficient * powerOfTen place : ℕ) : ℚ) * 10 ^ (-m.places : ℤ) := by
    rw [Decimal.value, Nat.cast_mul, cast_powerOfTen, sub_eq_add_neg, zpow_add₀ (by norm_num),
      zpow_natCast, mul_assoc]
  rw [hvalue]
  exact (m.holds_iff hpos _).mp h

theorem takes_shortestFrom (hpos : 0 < m.significand) (tie : Tie) (drop : ℕ) :
    m.Takes (m.shortestFrom tie drop).value := by
  induction drop with
  | zero =>
    rw [shortestFrom, value_exact]
    exact m.takes_value
  | succ drop ih =>
    rw [shortestFrom]
    split
    · next hbelow habove =>
      rcases roundDiv_eq_or tie m.expansion (powerOfTen (drop + 1)) with hround | hround
      · rw [hround]
        exact takes_of_holds hpos hbelow
      · rw [hround]
        exact takes_of_holds hpos habove
    · next hbelow _ => exact takes_of_holds hpos hbelow
    · next _ habove => exact takes_of_holds hpos habove
    · exact ih

/-- **The shortest digits read back.** -/
theorem takes_shortest (hpos : 0 < m.significand) (tie : Tie) : m.Takes (m.shortest tie).value :=
  takes_shortestFrom hpos tie _

end Magnitude

/-! ## Trailing zeros -/

theorem exists_natural_eq_stripped (n : ℕ) :
    ∃ k, natural n = stripped n ++ List.replicate k '0' := by
  have hzeros : (natural n).rtakeWhile (· == '0') =
      List.replicate ((natural n).rtakeWhile (· == '0')).length '0' :=
    List.eq_replicate_of_mem fun c hc ↦
      eq_of_beq (List.mem_rtakeWhile_imp (p := (· == '0')) hc)
  refine ⟨((natural n).rtakeWhile (· == '0')).length, ?_⟩
  rw [← hzeros]
  exact List.rdropWhile_append_rtakeWhile.symm

theorem stripped_ne_nil {n : ℕ} (h : 0 < n) : stripped n ≠ [] := by
  intro hnil
  obtain ⟨k, hk⟩ := exists_natural_eq_stripped n
  have hzero : Nat.ofDigitChars 10 (natural n) 0 = 0 := by
    rw [hk, hnil, List.nil_append, Nat.ofDigitChars_replicate_zero, Nat.mul_zero]
  have hvalue : Nat.ofDigitChars 10 (natural n) 0 = n := Nat.ofDigitChars_ten_toDigits
  omega

theorem isDigit_of_mem_stripped {n : ℕ} {c : Char} (h : c ∈ stripped n) : c.isDigit := by
  obtain ⟨k, hk⟩ := exists_natural_eq_stripped n
  have hmem : c ∈ natural n := hk ▸ List.mem_append_left _ h
  exact Text.isDigit_of_mem_natural hmem

/-- The digits that are written and the order determine the decimal. -/
theorem Decimal.value_eq_stripped (d : Decimal) :
    d.value = (Nat.ofDigitChars 10 (stripped d.coefficient) 0 : ℕ) *
      10 ^ (d.order + 1 - (stripped d.coefficient).length) := by
  obtain ⟨k, hk⟩ := exists_natural_eq_stripped d.coefficient
  have hcoefficient : d.coefficient =
      10 ^ k * Nat.ofDigitChars 10 (stripped d.coefficient) 0 := by
    conv_lhs => rw [← Nat.ofDigitChars_ten_toDigits (n := d.coefficient)]
    change Nat.ofDigitChars 10 (natural d.coefficient) 0 = _
    rw [hk, Nat.ofDigitChars_append, Nat.ofDigitChars_replicate_zero]
  have hexponent : d.order + 1 - (stripped d.coefficient).length = k + d.exponent := by
    rw [order, hk, List.length_append, List.length_replicate]
    push_cast
    ring
  rw [hexponent, zpow_add₀ (by norm_num), zpow_natCast, value]
  conv_lhs => rw [hcoefficient]
  rw [Nat.cast_mul, Nat.cast_pow, Nat.cast_ofNat]
  ring

end Lindenmayer.Numeral
