import Lindenmayer.Layout
import Lindenmayer.Proofs.Numeral.Plain
import Lindenmayer.Proofs.Numeral.Significant
import Lindenmayer.Proofs.Single.Decoding

/-!
# Numbers of plotting scripts

A number of a plotting script is written with the six digits of the decimal that it is rounded to.
The text is described by that decimal alone: from its order follows whether there is an exponent,
and the rest is a plain numeral.

## Two roundings

The digits are computed twice. A number is rounded to six digits to find the power of ten of the
leading one; and if this power is a moderate one, the number itself is rounded again, at the place
that the sixth digit has then. The first rounding is made at a place that is found before anything
is rounded, and where there is a carry into a seventh digit, the place of the second one is another.
Nevertheless both have the same digits up to zeros at the end, since the decimal that takes a number
is found at its own place, and after a carry the digits are those of a power of ten.
-/

namespace Lindenmayer

namespace Numeral

open Text (natural)
open Float.Model UnpackedFloat

/-! ## The text of a number -/

/-- The mark of an exponent, its sign, and at least two digits. -/
def exponentPart (order : ℤ) : List Char :=
  'e' :: (if order < 0 then '-' else '+') ::
    ((if order.natAbs < 10 then ['0'] else []) ++ natural order.natAbs)

/-- The texts of six digits: the plain numeral of the decimal, or, where its order is below -4 or at
least 6, the plain numeral with one digit ahead of the point, and the exponent. -/
inductive SixDigits.Printed (d : SixDigits) : List Char → Prop
  | positional {cs : List Char} : -4 ≤ d.order → d.order < 6 → Plain cs d.value → d.Printed cs
  | scientific {cs : List Char} : d.order < -4 ∨ 6 ≤ d.order → Plain cs (d.coefficient / 10 ^ 5) →
      d.Printed (cs ++ exponentPart d.order)

/-- What stands in front of a number with a sign. -/
def signText : Sign → List Char
  | .negative => ['-']
  | .positive => []

/-- The texts of a number: a name for what is not finite, a digit for zero, and otherwise those of
the decimal of six digits that the number is rounded to. -/
inductive Plotted : UnpackedFloat → List Char → Prop
  | nan : Plotted .notANumber "nan".toList
  | infinity (s : Sign) : Plotted (.infinity s) (signText s ++ "inf".toList)
  | zero (s : Sign) : Plotted (.zero s) (signText s ++ "0".toList)
  | finite {s : Sign} {m : ℕ} {e : ℤ} {h : 0 < m} {d : SixDigits} {cs : List Char} :
      d.Rounds (m * 2 ^ e) → d.Printed cs → Plotted (.finite s m e h) (signText s ++ cs)

theorem SixDigits.Printed.unique {d : SixDigits} {cs cs' : List Char} (h : d.Printed cs)
    (h' : d.Printed cs') : cs = cs' := by
  rcases h with ⟨hlow, hhigh, h⟩ | ⟨hout, h⟩
  · rcases h' with ⟨-, -, h'⟩ | ⟨hout, -⟩
    · exact h.unique h'
    · omega
  · rcases h' with ⟨hlow, hhigh, -⟩ | ⟨-, h'⟩
    · omega
    · rw [h.unique h']

/-! ## The digits that are written -/

theorem exists_takes_sixDigits {m : Magnitude} (hpos : 0 < m.significand) :
    ∃ d : SixDigits, d.Takes m.value ∧ (sixDigits m).order = d.order ∧
      stripped (sixDigits m).coefficient = stripped d.coefficient := by
  obtain ⟨d, htakes, hsignificant⟩ := Magnitude.exists_takes_significant hpos
  have hdigits : (m.significant .even 6).order = d.order ∧
      stripped (m.significant .even 6).coefficient = stripped d.coefficient := by
    rcases hsignificant with heq | ⟨hpower, heq⟩
    · rw [heq]
      exact ⟨d.order_toDecimal, rfl⟩
    · have hlength : (natural (10 ^ 6)).length = 7 := by decide
      have hzeros : stripped (10 ^ 6) = stripped (10 ^ 5) := by decide
      rw [heq, hpower, Decimal.order, hlength]
      exact ⟨by push_cast; ring, hzeros⟩
  refine ⟨d, htakes, ?_⟩
  rw [sixDigits]
  split_ifs
  · rw [hdigits.1, htakes.roundTo_eq]
    exact ⟨d.order_toDecimal, rfl⟩
  · exact hdigits

namespace SixDigits

variable (d : SixDigits)

theorem plain_positional :
    Plain (scriptNumbers.positional (stripped d.coefficient) d.order) d.value := by
  have hvalue := d.toDecimal.value_eq_stripped
  rw [order_toDecimal] at hvalue
  change d.value = _ at hvalue
  rw [hvalue]
  exact scriptNumbers.plain_positional rfl (stripped_ne_nil d.coefficient_pos)
    (fun _ ↦ isDigit_of_mem_stripped) (head?_stripped_ne d.coefficient_pos)
    (getLast?_stripped_ne _) _

theorem plain_mantissa :
    Plain (scriptNumbers.positional (stripped d.coefficient) 0) (d.coefficient / 10 ^ 5) := by
  have hvalue : value { d with order := 0 } = d.coefficient / 10 ^ 5 := by
    rw [value, unit, zero_sub, zpow_neg, div_eq_mul_inv]
    norm_cast
  rw [← hvalue]
  exact plain_positional { d with order := 0 }

end SixDigits

theorem scientific_scriptNumbers {ds : List Char} (hne : ds ≠ []) (order : ℤ) :
    scriptNumbers.scientific ds order =
      scriptNumbers.positional ds 0 ++ scriptNumbers.exponent order := by
  obtain ⟨c, rest, rfl⟩ := List.exists_cons_of_ne_nil hne
  rcases rest with - | ⟨d, rest⟩
  · rfl
  · rfl

theorem exponent_scriptNumbers (order : ℤ) :
    scriptNumbers.exponent order = exponentPart order := by
  have hzeros : List.replicate (2 - (natural order.natAbs).length) '0' =
      if order.natAbs < 10 then ['0'] else [] := by
    have hone : (natural order.natAbs).length ≤ 1 ↔ order.natAbs < 10 :=
      Nat.length_toDigits_le_iff (by decide) one_pos
    have hpos : 0 < (natural order.natAbs).length := Nat.length_toDigits_pos
    split_ifs with hlt
    · rw [show (natural order.natAbs).length = 1 by omega]
      rfl
    · rw [show 2 - (natural order.natAbs).length = 0 by omega]
      rfl
  rw [exponentPart, ← hzeros]
  by_cases hneg : order < 0
  · simp [Style.exponent, scriptNumbers, hneg]
  · simp [Style.exponent, scriptNumbers, hneg]

theorem exists_printed {m : Magnitude} (hpos : 0 < m.significand) :
    ∃ d : SixDigits, d.Takes m.value ∧ d.Printed (scriptNumbers.magnitude m) := by
  obtain ⟨d, htakes, horder, hdigits⟩ := exists_takes_sixDigits hpos
  refine ⟨d, htakes, ?_⟩
  have hstyle : scriptNumbers.isPositional d.order = true ↔ -4 ≤ d.order ∧ d.order ≤ 5 := by
    simp [Style.isPositional, scriptNumbers]
  have hdecimal : scriptNumbers.decimal m = sixDigits m := rfl
  rw [Style.magnitude, hdecimal, horder, hdigits]
  split_ifs with hpositional
  · obtain ⟨hlow, hhigh⟩ := hstyle.mp hpositional
    exact .positional hlow (Int.lt_add_one_of_le hhigh) d.plain_positional
  · rw [hstyle, not_and_or] at hpositional
    rw [scientific_scriptNumbers (stripped_ne_nil d.coefficient_pos), exponent_scriptNumbers]
    exact .scientific (by omega) d.plain_mantissa

/-- What is written for a number is a text of it. -/
theorem plotted_write (u : UnpackedFloat) : Plotted u (scriptNumbers.write (.ofUnpacked u)) := by
  rcases u with s | - | s | ⟨s, m, e, h⟩
  · rcases s <;> exact .infinity _
  · exact .nan
  · rcases s <;> exact .zero _
  · obtain ⟨d, htakes, hprinted⟩ := exists_printed (m := ⟨m, e, m = 2 ^ 23 && -149 < e⟩) h
    have hplotted := Plotted.finite (s := s) (h := h) htakes.rounds hprinted
    rcases s <;> exact hplotted

theorem Plotted.unique {u : UnpackedFloat} {cs cs' : List Char} (h : Plotted u cs)
    (h' : Plotted u cs') : cs = cs' := by
  cases h with
  | nan | infinity | zero =>
    cases h'
    rfl
  | finite hrounds hprinted =>
    obtain - | - | - | ⟨hrounds', hprinted'⟩ := h'
    obtain rfl := hrounds.unique hrounds'
    rw [hprinted.unique hprinted']

end Numeral

open Numeral

/-- **Numbers of scripts.** What is written for a number, be it normal or subnormal, infinite or
none at all, is its one text. A finite number other than zero has the text of the decimal of six
digits that it is rounded to. -/
theorem coordinate_scriptNumbers_eq_iff (x : Float32) (cs : List Char) :
    coordinate scriptNumbers x = cs ↔ Plotted x.toModel.unpack cs := by
  rw [coordinate, Value.ofFloat32_eq]
  constructor
  · rintro rfl
    exact plotted_write _
  · exact (plotted_write _).unique

/-- The greatest number with six digits ahead of the point is rounded to a power of ten and written
with an exponent, and zeros of a whole number are kept. -/
example : coordinate scriptNumbers 999999.5 = "1e+06".toList ∧
    coordinate scriptNumbers (-100) = "-100".toList ∧
    coordinate scriptNumbers 0.00001 = "1e-05".toList := by
  decide +kernel

end Lindenmayer
