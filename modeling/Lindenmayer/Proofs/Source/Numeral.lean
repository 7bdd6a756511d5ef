import Lindenmayer.Text.Integer
import Mathlib.Algebra.Order.Ring.Int
import Mathlib.Data.Int.Notation
import Mathlib.Data.Nat.Notation

/-!
# Numerals of counts

A count in a grammar text is the numeral of an integer of 64 bits: decimal digits, at least one,
behind at most one sign. Leading zeros mean nothing and there may be any number of them, so the
length of a numeral says nothing about its value; the range is a condition on the value alone.

The decimal numeral that is written for a natural number is one of its numerals.
-/

namespace Lindenmayer.Text

/-- The numerals of an integer: digits, at least one, behind at most one sign. -/
inductive Numeral : List Char → ℤ → Prop
  | unsigned {ds : List Char} : ds ≠ [] → (∀ c ∈ ds, c.isDigit) →
      Numeral ds (Nat.ofDigitChars 10 ds 0)
  | plus {ds : List Char} : ds ≠ [] → (∀ c ∈ ds, c.isDigit) →
      Numeral ('+' :: ds) (Nat.ofDigitChars 10 ds 0)
  | minus {ds : List Char} : ds ≠ [] → (∀ c ∈ ds, c.isDigit) →
      Numeral ('-' :: ds) (-(Nat.ofDigitChars 10 ds 0 : ℕ))

/-- The numerals of integers that fit in 64 bits with a sign. -/
def Numeral64 (cs : List Char) (i : ℤ) : Prop :=
  Numeral cs i ∧ -2 ^ 63 ≤ i ∧ i < 2 ^ 63

/-! ## Reading -/

theorem readDigits?_eq_some_iff {cs : List Char} {n : ℕ} :
    readDigits? cs = some n ↔
      cs ≠ [] ∧ (∀ c ∈ cs, c.isDigit) ∧ Nat.ofDigitChars 10 cs 0 = n := by
  have hdigits : (!cs.isEmpty && cs.all Char.isDigit) = true ↔ cs ≠ [] ∧ ∀ c ∈ cs, c.isDigit := by
    rw [Bool.and_eq_true, Bool.not_eq_true', List.isEmpty_eq_false_iff, List.all_eq_true]
  rw [readDigits?, Option.ite_none_right_eq_some, hdigits, Option.some_inj, and_assoc]

theorem readInteger?_minus (ds : List Char) :
    readInteger? ('-' :: ds) = (readDigits? ds).map fun n : ℕ ↦ -(n : ℤ) := by
  rw [readInteger?]
  cases readDigits? ds <;> rfl

theorem readInteger?_plus (ds : List Char) :
    readInteger? ('+' :: ds) = (readDigits? ds).map fun n : ℕ ↦ (n : ℤ) := by
  rw [readInteger?]
  cases readDigits? ds <;> rfl

theorem readInteger?_of_ne {cs : List Char} (hminus : ∀ ds, cs ≠ '-' :: ds)
    (hplus : ∀ ds, cs ≠ '+' :: ds) :
    readInteger? cs = (readDigits? cs).map fun n : ℕ ↦ (n : ℤ) := by
  rw [readInteger?]
  · cases readDigits? cs <;> rfl
  · exact hminus
  · exact hplus

theorem readInteger?_eq_some_iff {cs : List Char} {i : ℤ} :
    readInteger? cs = some i ↔ Numeral cs i := by
  constructor
  · intro h
    by_cases hminus : ∃ ds, cs = '-' :: ds
    · obtain ⟨ds, rfl⟩ := hminus
      rw [readInteger?_minus] at h
      obtain ⟨n, hn, rfl⟩ := Option.map_eq_some_iff.mp h
      obtain ⟨hne, hds, rfl⟩ := readDigits?_eq_some_iff.mp hn
      exact .minus hne hds
    by_cases hplus : ∃ ds, cs = '+' :: ds
    · obtain ⟨ds, rfl⟩ := hplus
      rw [readInteger?_plus] at h
      obtain ⟨n, hn, rfl⟩ := Option.map_eq_some_iff.mp h
      obtain ⟨hne, hds, rfl⟩ := readDigits?_eq_some_iff.mp hn
      exact .plus hne hds
    rw [readInteger?_of_ne (not_exists.mp hminus) (not_exists.mp hplus)] at h
    obtain ⟨n, hn, rfl⟩ := Option.map_eq_some_iff.mp h
    obtain ⟨hne, hds, rfl⟩ := readDigits?_eq_some_iff.mp hn
    exact .unsigned hne hds
  · intro h
    cases h with
    | unsigned hne hds =>
      -- a sign is no digit
      rw [readInteger?_of_ne, readDigits?_eq_some_iff.mpr ⟨hne, hds, rfl⟩, Option.map_some]
      · rintro ds rfl
        exact absurd (hds '-' List.mem_cons_self) (by decide)
      · rintro ds rfl
        exact absurd (hds '+' List.mem_cons_self) (by decide)
    | plus hne hds =>
      rw [readInteger?_plus, readDigits?_eq_some_iff.mpr ⟨hne, hds, rfl⟩, Option.map_some]
    | minus hne hds =>
      rw [readInteger?_minus, readDigits?_eq_some_iff.mpr ⟨hne, hds, rfl⟩, Option.map_some]

/-- **What is read as a count.** -/
theorem readInt64?_eq_some_iff {cs : List Char} {i : ℤ} :
    readInt64? cs = some i ↔ Numeral64 cs i := by
  have hmin : Int64.minValue.toInt = -2 ^ 63 := rfl
  have hmax : Int64.maxValue.toInt = 2 ^ 63 - 1 := rfl
  rw [readInt64?, Option.filter_eq_some_iff, readInteger?_eq_some_iff, Numeral64, Bool.and_eq_true,
    decide_eq_true_iff, decide_eq_true_iff, hmin, hmax, Int.le_sub_one_iff]

theorem readInt64?_eq_none_iff {cs : List Char} :
    readInt64? cs = none ↔ ∀ i, ¬Numeral64 cs i := by
  rw [Option.eq_none_iff_forall_ne_some]
  exact forall_congr' fun i ↦ not_congr readInt64?_eq_some_iff

theorem Numeral64.unique {cs : List Char} {i j : ℤ} (hi : Numeral64 cs i) (hj : Numeral64 cs j) :
    i = j :=
  Option.some.inj ((readInt64?_eq_some_iff.mpr hi).symm.trans (readInt64?_eq_some_iff.mpr hj))

/-! ## Writing -/

theorem isDigit_of_mem_natural {n : ℕ} {c : Char} (h : c ∈ natural n) : c.isDigit :=
  Nat.isDigit_of_mem_toDigits (by decide) (by decide) h

theorem head?_natural_ne {n : ℕ} (h : 0 < n) : (natural n).head? ≠ some '0' := by
  induction n using Nat.strong_induction_on with
  | h n ih =>
    rcases Nat.lt_or_ge n 10 with hlt | hge
    · have hdigit : ∀ m < 10, 0 < m → [m.digitChar].head? ≠ some '0' := by decide
      rw [natural, Nat.toDigits_of_lt_base hlt]
      exact hdigit n hlt h
    · -- the leading digit is the one of the number without its last digit
      have hpos : 0 < n / 10 := Nat.div_pos hge (by decide)
      have hne : Nat.toDigits 10 (n / 10) ≠ [] := Nat.toDigits_ne_nil
      obtain ⟨d, ds, hds⟩ := List.exists_cons_of_ne_nil hne
      have hhead := ih _ (Nat.div_lt_self h (by decide)) hpos
      rw [natural, hds] at hhead
      rwa [natural, Nat.toDigits_of_base_le (by decide) hge, hds]

theorem numeral64_natural {n : ℕ} (h : n < 2 ^ 63) : Numeral64 (natural n) n := by
  have hvalue : Nat.ofDigitChars 10 (natural n) 0 = n := Nat.ofDigitChars_ten_toDigits
  have hnumeral : Numeral (natural n) (Nat.ofDigitChars 10 (natural n) 0 : ℕ) :=
    .unsigned Nat.toDigits_ne_nil fun _ ↦ isDigit_of_mem_natural
  rw [hvalue] at hnumeral
  exact ⟨hnumeral, by omega, by omega⟩

/-- A sign and leading zeros change nothing; the first integer that does not fit has no numeral. -/
example : readInt64? "+0042".toList = some 42 ∧ readInt64? "9223372036854775808".toList = none := by
  decide

end Lindenmayer.Text
