import Lindenmayer.Proofs.Numeral.Spacing
import Lindenmayer.Proofs.Output.Script
import Lindenmayer.Proofs.Output.Table

/-!
# Numbers of plotting scripts are stable

Six digits are too few for every number to be read back from what is written. But what is read back
is written as the same text: a script that is read and written again does not change any further.

## Through the decimal

The text of a number and its digits are the same thing, since a decimal of six digits has one text
and each text is read as the number that its decimal stands for. What is left is a matter of two
roundings, from a magnitude to the decimal and from there to a magnitude, and of a sign, a zero and
names that are no matter of rounding.
-/

namespace Lindenmayer

namespace Numeral

open Text (natural)
open Float.Model UnpackedFloat

/-! ## Reading -/

theorem readExponent?_exponentPart (order : ℤ) :
    readExponent? (exponentPart order) = some order := by
  obtain ⟨k, hzeros⟩ : ∃ k, (if order.natAbs < 10 then ['0'] else []) = List.replicate k '0' := by
    split_ifs
    · exact ⟨1, rfl⟩
    · exact ⟨0, rfl⟩
  have hne : List.replicate k '0' ++ natural order.natAbs ≠ [] :=
    List.append_ne_nil_of_right_ne_nil _ Nat.toDigits_ne_nil
  have hdigits : ∀ c ∈ List.replicate k '0' ++ natural order.natAbs, c.isDigit :=
    List.forall_mem_append.mpr
      ⟨fun _ ↦ isDigit_of_mem_replicate, fun _ ↦ Text.isDigit_of_mem_natural⟩
  have hvalue : Nat.ofDigitChars 10 (List.replicate k '0' ++ natural order.natAbs) 0 =
      order.natAbs := by
    rw [Nat.ofDigitChars_append, Nat.ofDigitChars_replicate_zero, Nat.mul_zero]
    exact Nat.ofDigitChars_ten_toDigits
  rw [exponentPart, hzeros]
  change Text.readInteger? _ = _
  rw [Text.readInteger?_eq_some_iff]
  by_cases hneg : order < 0
  · have hnumeral := Text.Numeral.minus hne hdigits
    rw [hvalue] at hnumeral
    rw [if_pos hneg]
    convert hnumeral
    omega
  · have hnumeral := Text.Numeral.plus hne hdigits
    rw [hvalue] at hnumeral
    rw [if_neg hneg]
    convert hnumeral
    omega

namespace SixDigits.Printed

variable {d : SixDigits} {cs : List Char}

theorem exists_cons (h : d.Printed cs) : ∃ c rest, cs = c :: rest ∧ c.isDigit := by
  rcases h with ⟨-, -, hplain⟩ | ⟨-, hplain⟩
  · exact hplain.pointed.exists_cons
  · obtain ⟨c, rest, rfl, hc⟩ := hplain.pointed.exists_cons
    exact ⟨c, rest ++ exponentPart d.order, rfl, hc⟩

theorem exists_readDecimal? (h : d.Printed cs) :
    ∃ read, readDecimal? cs = some read ∧ read.value = d.value := by
  rcases h with ⟨-, -, hplain⟩ | ⟨-, hplain⟩
  · exact hplain.pointed.exists_readDecimal?
  · have htail : ∀ c ∈ (exponentPart d.order).head?, c.isDigit = false ∧ c ≠ '.' := by
      rintro _ ⟨⟩
      decide
    have hvalue : (d.coefficient : ℚ) / 10 ^ 5 * 10 ^ d.order = d.value := by
      rw [pow_order, value]
      ring
    rw [← hvalue]
    exact hplain.pointed.exists_readDecimal?_append htail (readExponent?_exponentPart _)

theorem readFloat32?_eq {m : Magnitude} {binade : ℕ} (h : d.Printed cs)
    (hm : single.Contains m binade) (htakes : m.Takes d.value) (negative : Bool) :
    readFloat32? (if negative then '-' :: cs else cs) =
      some (signed negative (binade * 2 ^ 23 + m.significand)) := by
  obtain ⟨c, rest, rfl, hc⟩ := h.exists_cons
  obtain ⟨read, hread, hvalue⟩ := h.exists_readDecimal?
  have hmagnitude : readMagnitude? negative (c :: rest) =
      some (signed negative (binade * 2 ^ 23 + m.significand)) := by
    rw [readMagnitude?_of_isDigit hc, hread, Option.map_some,
      Decimal.nearestBits_eq hm (hvalue.symm ▸ htakes)]
  rcases negative with - | -
  · exact (readFloat32?_of_isDigit hc rest).trans hmagnitude
  · exact hmagnitude

end SixDigits.Printed

/-! ## Classes -/

theorem isFinite_of_ofFloat32_eq {x : Float32} {negative : Bool} {m : Magnitude}
    (h : Value.ofFloat32 x = .finite negative m) :
    x.isFinite = true ∧ x.isNaN = false ∧ (x == 0) = false := by
  rw [Value.ofFloat32_eq] at h
  change x.toModel.unpack.isFinite = true ∧ x.toModel.unpack.isNaN = false ∧
    x.toModel.unpack.beq (UnpackedFloat.zero .positive) = false
  generalize x.toModel.unpack = u at h ⊢
  rcases u with s | - | s | ⟨s, m, e, hpos⟩
  · cases h
  · cases h
  · cases h
  · rcases s <;> exact ⟨rfl, rfl, rfl⟩

end Numeral

open Numeral

/-- What is written for a magnitude is read as one that is written in the same way. -/
theorem exists_reprint {m : Magnitude} {binade : ℕ} (hm : single.Contains m binade) :
    ∃ m' binade', single.Contains m' binade' ∧
      scriptNumbers.magnitude m' = scriptNumbers.magnitude m ∧
      ∀ negative,
        readFloat32? (if negative then '-' :: scriptNumbers.magnitude m
          else scriptNumbers.magnitude m) =
        some (signed negative (binade' * 2 ^ 23 + m'.significand)) := by
  obtain ⟨d, htakes, hprinted⟩ := exists_printed hm.pos
  obtain ⟨m', binade', hm', hread, htakes'⟩ := htakes.exists_magnitude hm
  obtain ⟨d', htakes'', hprinted'⟩ := exists_printed hm'.pos
  obtain rfl := htakes''.rounds.unique htakes'.rounds
  exact ⟨m', binade', hm', hprinted'.unique hprinted, hprinted.readFloat32?_eq hm' hread⟩

/-- **Numbers of scripts are stable.** The text of every number is read as a number, and this one is
written as the same text. The number that is read is finite, is zero or is no number at all exactly
if the one that was written is. -/
theorem coordinate_scriptNumbers_stable (x : Float32) :
    ∃ y, readFloat32? (coordinate scriptNumbers x) = some y ∧
      coordinate scriptNumbers y = coordinate scriptNumbers x ∧
      y.isFinite = x.isFinite ∧ y.isNaN = x.isNaN ∧ (y == 0) = (x == 0) := by
  obtain ⟨negative, below, hencodes, hsigned, hnan⟩ := exists_encodes x
  -- what is no matter of rounding is read as what was written
  have hsame : readFloat32? (coordinate scriptNumbers x) = some x → ∃ y,
      readFloat32? (coordinate scriptNumbers x) = some y ∧
        coordinate scriptNumbers y = coordinate scriptNumbers x ∧
        y.isFinite = x.isFinite ∧ y.isNaN = x.isNaN ∧ (y == 0) = (x == 0) :=
    fun hread ↦ ⟨x, hread, rfl, rfl, rfl, rfl⟩
  generalize hvalue : Value.ofFloat32 x = value at hencodes
  rcases hencodes with - | @⟨m, binade, hm⟩ | - | hlt
  · refine hsame ?_
    rw [← hsigned]
    rcases negative <;> decide +kernel
  · obtain ⟨m', binade', hm', htext, hread⟩ := exists_reprint hm
    have hwrite : ∀ m, scriptNumbers.write (.finite negative m) =
        if negative then '-' :: scriptNumbers.magnitude m else scriptNumbers.magnitude m := by
      rcases negative <;> exact fun _ ↦ rfl
    have hvalue' := ofFloat32_signed hm' negative
    obtain ⟨hfinite, hnumber, hzero⟩ := isFinite_of_ofFloat32_eq hvalue
    obtain ⟨hfinite', hnumber', hzero'⟩ := isFinite_of_ofFloat32_eq hvalue'
    refine ⟨_, ?_, ?_, hfinite'.trans hfinite.symm, hnumber'.trans hnumber.symm,
      hzero'.trans hzero.symm⟩
    · rw [coordinate, hvalue, hwrite]
      exact hread negative
    · rw [coordinate, coordinate, hvalue, hvalue', hwrite, hwrite, htext]
  · refine hsame ?_
    rw [← hsigned]
    rcases negative <;> decide +kernel
  · refine hsame ?_
    rw [hnan hlt]
    decide +kernel

/-- The least number, the least one with all its bits, and the one that `10 ^ -39` is read as. -/
example : [1, 0x00800000, 0x000AE398].map (fun bits ↦ coordinate scriptNumbers (.ofBits bits)) =
      ["1.4013e-45".toList, "1.17549e-38".toList, "1e-39".toList] ∧
    readFloat32? "1e-39".toList = some (.ofBits 0x000AE398) := by
  decide +kernel

end Lindenmayer
