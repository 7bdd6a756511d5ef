import Lindenmayer.Proofs.Numeral.Nearest

/-!
# Decoded single-precision numbers

The printers and readers decode the pattern of a number with `Format.decode`. What single-precision
numbers are is not said there but by the unpacked numbers of the arithmetic. This file shows that
both are the same, so that a statement about printing can be made about the numbers themselves; and
that a pattern that is put together from a sign and a magnitude is decoded to these.
-/

namespace Lindenmayer.Numeral

open Float.Model UnpackedFloat

/-! ## Fields -/

theorem decode_single (n : ℕ) : single.decode n =
    let negative := decide (n / 2 ^ 31 % 2 = 1)
    let biased := n / 2 ^ 23 % 2 ^ 8
    let fraction := n % 2 ^ 23
    if biased = 255 then
      if fraction = 0 then .infinite negative else .nan
    else if biased = 0 then
      if fraction = 0 then .zero negative else .finite negative ⟨fraction, -149, false⟩
    else
      .finite negative
        ⟨2 ^ 23 + fraction, -149 + (biased - 1 : ℕ), fraction = 0 && 1 < biased⟩ := by
  rw [Format.decode]
  simp only [Nat.shiftRight_eq_div_pow]
  rfl

/-- An unpacked number as a value of the printers. -/
def Value.ofUnpacked : UnpackedFloat → Value
  | .notANumber => .nan
  | .infinity s => .infinite (s == .negative)
  | .zero s => .zero (s == .negative)
  | .finite s m e _ => .finite (s == .negative) ⟨m, e, m = 2 ^ 23 && -149 < e⟩

/-- **Numbers are decoded as what they are.** -/
theorem Value.ofFloat32_eq (x : Float32) : Value.ofFloat32 x = .ofUnpacked x.toModel.unpack := by
  have hsign : (Sign.ofBitVec (@unpackSign .binary32 x.toBits.toBitVec) == .negative) =
      decide (x.toBits.toNat / 2 ^ 31 % 2 = 1) := by
    have hbit : (@unpackSign .binary32 x.toBits.toBitVec).toNat = x.toBits.toNat / 2 ^ 31 % 2 := by
      rw [← Nat.shiftRight_eq_div_pow]
      rfl
    rw [← hbit]
    generalize @unpackSign .binary32 x.toBits.toBitVec = bit
    revert bit
    decide
  have hexponent : (@unpackExponent .binary32 x.toBits.toBitVec).toNat =
      x.toBits.toNat / 2 ^ 23 % 2 ^ 8 := by
    rw [← Nat.shiftRight_eq_div_pow]
    rfl
  have hmantissa : (@unpackMantissa .binary32 x.toBits.toBitVec).toNat =
      x.toBits.toNat % 2 ^ 23 := rfl
  have hzero : ∀ {w : ℕ} {field : BitVec w}, field = 0#w ↔ field.toNat = 0 :=
    BitVec.toNat_inj.symm
  have hmax : ∀ {field : BitVec 8}, field = -1#8 ↔ field.toNat = 255 := BitVec.toNat_inj.symm
  rw [ofFloat32, decode_single]
  dsimp only
  rw [← hsign, ← hexponent, ← hmantissa]
  change _ = Value.ofUnpacked (@UnpackedFloat.unpack .binary32 x.toBits.toBitVec)
  rw [UnpackedFloat.unpack]
  simp only [hmax, hzero]
  split_ifs with hspecial hinfinite hsubnormal hnone
  · rfl
  · rfl
  · rfl
  · rw [ofUnpacked, hsubnormal]
    have hlt : (@unpackMantissa .binary32 x.toBits.toBitVec).toNat < 2 ^ 23 := BitVec.isLt _
    simp only [hlt.ne, decide_false, Bool.false_and]
    rfl
  · -- the leading bit of a normal number is not in the pattern
    have hleading : (1#1 ++ @unpackMantissa .binary32 x.toBits.toBitVec).toNat =
        2 ^ 23 + (@unpackMantissa .binary32 x.toBits.toBitVec).toNat := by
      have hlt : (@unpackMantissa .binary32 x.toBits.toBitVec).toNat < 2 ^ 23 := BitVec.isLt _
      rw [BitVec.toNat_append, ← Nat.shiftLeft_add_eq_or_of_lt hlt]
      rfl
    have hbias : (Format.exponentBias .binary32 : ℤ) = 127 := rfl
    rw [ofUnpacked, hleading, hbias]
    congr 2
    · omega
    · congr 1
      · exact decide_eq_decide.mpr (by omega)
      · exact decide_eq_decide.mpr (by omega)

/-! ## Patterns -/

theorem toBits_ofBits {b : UInt32} (h : b.toNat / 2 ^ 23 % 2 ^ 8 ≠ 255) :
    (Float32.ofBits b).toBits = b := by
  have hexponent : @unpackExponent .binary32 b.toBitVec ≠ -1#8 := by
    intro hmax
    have hnat : b.toNat >>> 23 % 2 ^ 8 = 255 := congrArg BitVec.toNat hmax
    rw [Nat.shiftRight_eq_div_pow] at hnat
    exact h hnat
  have hvalid : Format.binary32.Valid b.toBitVec := ⟨fun hmax ↦ absurd hmax hexponent⟩
  exact UInt32.toBitVec_inj.mp (pack_unpack_of_valid hvalid (by decide))

theorem Format.Contains.decode_eq {m : Magnitude} {binade n : ℕ} (hm : single.Contains m binade)
    (hbelow : n % 2 ^ 31 = binade * 2 ^ 23 + m.significand) :
    single.decode n = .finite (n / 2 ^ 31 % 2 = 1) m := by
  have hexponent : m.exponent = -149 + binade := hm.exponent
  have hlt : m.significand < 2 ^ 24 := hm.lt
  have hnormal : 0 < binade → 2 ^ 23 ≤ m.significand := hm.normal
  have hbits : binade * 2 ^ 23 + m.significand < 255 * 2 ^ 23 := hm.bits_lt
  have hnarrow : m.narrowBelow = decide (0 < binade ∧ m.significand = 2 ^ 23) := by
    rw [Bool.eq_iff_iff, decide_eq_true_iff]
    exact hm.narrow
  have hfields : m = ⟨m.significand, -149 + binade,
      decide (0 < binade ∧ m.significand = 2 ^ 23)⟩ := by
    rw [← hexponent, ← hnarrow]
  have hspecial : ¬n / 2 ^ 23 % 2 ^ 8 = 255 := by omega
  rw [decode_single, hfields]
  dsimp only
  rw [if_neg hspecial]
  by_cases hsubnormal : n / 2 ^ 23 % 2 ^ 8 = 0
  · have hbinade : binade = 0 := by omega
    have hfraction : n % 2 ^ 23 = m.significand := by omega
    subst hbinade
    rw [if_pos hsubnormal, hfraction, if_neg hm.pos.ne']
    rfl
  · have hbiased : n / 2 ^ 23 % 2 ^ 8 = binade + 1 := by omega
    have hfraction : 2 ^ 23 + n % 2 ^ 23 = m.significand := by omega
    rw [if_neg hsubnormal, hfraction, hbiased, Nat.add_sub_cancel]
    congr 2
    rw [Bool.eq_iff_iff, Bool.and_eq_true, decide_eq_true_iff, decide_eq_true_iff,
      decide_eq_true_iff]
    omega

/-- **Patterns are decoded as what they were put together from.** -/
theorem ofFloat32_signed {m : Magnitude} {binade : ℕ} (hm : single.Contains m binade)
    (negative : Bool) :
    Value.ofFloat32 (signed negative (binade * 2 ^ 23 + m.significand)) = .finite negative m := by
  have hlt : binade * 2 ^ 23 + m.significand < 255 * 2 ^ 23 := hm.bits_lt
  generalize hbelow : binade * 2 ^ 23 + m.significand = below at hlt ⊢
  obtain ⟨n, hn, hlow, hsign⟩ : ∃ n, (if negative then 1 <<< 31 + below else below) = n ∧
      n % 2 ^ 31 = below ∧ n / 2 ^ 31 = negative.toNat := by
    refine ⟨_, rfl, ?_⟩
    rw [Nat.one_shiftLeft]
    rcases negative with - | -
    · rw [if_neg Bool.false_ne_true, Bool.toNat_false]
      omega
    · rw [if_pos rfl, Bool.toNat_true]
      omega
  have hbit := negative.toNat_lt
  have hn32 : (UInt32.ofNat n).toNat = n := UInt32.toNat_ofNat_of_lt' (show n < 2 ^ 32 by omega)
  rw [signed, hn, Value.ofFloat32, toBits_ofBits (by rw [hn32]; omega), hn32,
    hm.decode_eq (hlow.trans hbelow.symm), hsign]
  rcases negative <;> rfl

end Lindenmayer.Numeral
