import Lindenmayer.Proofs.Single.Order

/-!
# Finite single-precision numbers

Two facts keep coordinates from becoming data that are not numbers. A finite number can be added to
any number: what goes wrong in a sum is two infinities of opposite signs, and overflow is none of
that. And a finite number times a number from -1 to 1 is finite: it is at most the finite factor, so
it cannot overflow.

The second one is about rounding. A product is rounded at an exponent chosen from its size, and the
rounded mantissa may need one bit more. Only at the greatest exponent would that be an overflow; but
there the exact product is at most a number without residual bits, and rounding does not pass such a
number. This is `AtMost`, the invariant of the shift that prepares for rounding.
-/

namespace Lindenmayer.Single

open Float.Model (Format UnpackedFloat)
open Float.Model.Format (binary32)
open Float.Model.UnpackedFloat

/-! ## Unpacking -/

theorem isNaN_unpack {b : BitVec binary32.numBits} :
    (unpack binary32 b).isNaN = true ↔ unpackExponent b = -1#_ ∧ unpackMantissa b ≠ 0#_ := by
  rw [unpack]
  split_ifs <;> simp_all [UnpackedFloat.isNaN]

theorem isFinite_unpack {b : BitVec binary32.numBits} :
    (unpack binary32 b).isFinite = true ↔ unpackExponent b ≠ -1#_ := by
  rw [unpack]
  split_ifs <;> simp_all [UnpackedFloat.isFinite]

theorem bounds_of_unpack {b : BitVec binary32.numBits} {s : Sign} {m : ℕ} {e : ℤ} {h : 0 < m}
    (hb : unpack binary32 b = .finite s m e h) : m < 2 ^ 24 ∧ e ≤ 104 := by
  have hbias : (Format.exponentBias binary32 : ℤ) = 127 := rfl
  rw [unpack] at hb
  split_ifs at hb with hmax _ hmin hzero
  · -- a subnormal number has the exponent of the least normal ones
    cases hb
    have hmantissa : (unpackMantissa b).toNat < 2 ^ 23 := (unpackMantissa b).isLt
    have hexponent : (unpackExponent b).toNat = 0 := congrArg BitVec.toNat hmin
    omega
  · cases hb
    have hmantissa : (1#1 ++ unpackMantissa b).toNat < 2 ^ (1 + 23) := BitVec.isLt _
    have hexponent : (unpackExponent b).toNat < 2 ^ 8 := (unpackExponent b).isLt
    have hne : (unpackExponent b).toNat ≠ 255 := fun h ↦ hmax (BitVec.eq_of_toNat_eq h)
    have hwidth : binary32.mantissaBitsWithoutImplicit = 23 := rfl
    exact ⟨hmantissa, by omega⟩

/-! ## Packing -/

theorem pack_of_lt {s : Sign} {m : ℕ} {e : ℤ} {h : 0 < m} (he : 104 < e) :
    pack binary32 (.finite s m e h) = packedInfinity binary32 s := by
  have hbias : (Format.exponentBias binary32 : ℤ) = 127 := rfl
  have hwidth : binary32.mantissaBitsWithoutImplicit = 23 := rfl
  have hexponents : 2 ^ binary32.exponentBits = 256 := rfl
  rw [pack]
  exact if_pos (by omega)

theorem isFinite_unpack_pack_zero (s : Sign) :
    (unpack binary32 (pack binary32 (.zero s))).isFinite = true := by
  rw [pack, unpack_packedZero, UnpackedFloat.isFinite]

theorem isFinite_unpack_pack {s : Sign} {m : ℕ} {e : ℤ} {h : 0 < m} (he : e ≤ 104) :
    (unpack binary32 (pack binary32 (.finite s m e h))).isFinite = true := by
  have hbias : (Format.exponentBias binary32 : ℤ) = 127 := rfl
  rw [isFinite_unpack, pack]
  dsimp only
  rw [if_neg (by omega)]
  split_ifs with hnormal
  · rw [unpackExponent_packComponents]
    intro hexponent
    have hnat := congrArg BitVec.toNat hexponent
    rw [BitVec.toNat_ofNat, Nat.mod_eq_of_lt (by omega)] at hnat
    have hmax : (-1#8).toNat = 255 := rfl
    omega
  · rw [unpackExponent_packComponents]
    decide

theorem isNaN_unpack_pack {f : UnpackedFloat} (hf : f.isNaN = false) :
    (unpack binary32 (pack binary32 f)).isNaN = false := by
  rw [← Bool.not_eq_true, isNaN_unpack]
  cases f with
  | notANumber => cases hf
  | infinity s => simp [pack, packedInfinity]
  | zero s => simp [pack, packedZero]
  | finite s m e h =>
    by_cases he : e ≤ 104
    · exact fun hnan ↦ isFinite_unpack.mp (isFinite_unpack_pack he) hnan.1
    · rw [pack_of_lt (by omega), packedInfinity, unpackMantissa_packComponents]
      exact fun hnan ↦ hnan.2 rfl

/-! ## Sums -/

theorem isNaN_roundWithAccuracy (s : Sign) (m : ℕ) (e : ℤ) (accuracy : Accuracy) :
    (roundWithAccuracy binary32 s m e accuracy).isNaN = false := by
  rw [roundWithAccuracy]
  dsimp only
  split_ifs <;> rfl

theorem isNaN_normalize (m e : ℤ) (s : Sign) :
    (UnpackedFloat.normalize binary32 m e s).isNaN = false := by
  rw [UnpackedFloat.normalize]
  split
  · exact isNaN_roundWithAccuracy _ _ _ _
  · rfl
  · exact isNaN_roundWithAccuracy _ _ _ _

/-- A finite number can be added to every number, an infinite one among them. -/
theorem isNaN_add {x y : Float32} (hx : x.isNaN = false) (hy : y.isFinite = true) :
    (x + y).isNaN = false := by
  have hadd : (UnpackedFloat.add binary32 x.toModel.unpack y.toModel.unpack).isNaN = false := by
    have hx : x.toModel.unpack.isNaN = false := hx
    have hy : y.toModel.unpack.isFinite = true := hy
    generalize x.toModel.unpack = f at hx
    generalize y.toModel.unpack = g at hy
    cases f with
    | notANumber => cases hx
    | infinity s | zero s =>
      cases g with
      | notANumber | infinity _ => cases hy
      | zero s' => cases s <;> cases s' <;> rfl
      | finite s' _ _ _ => rfl
    | finite s _ _ _ =>
      cases g with
      | notANumber | infinity _ => cases hy
      | zero s' => rfl
      | finite s' _ _ _ => exact isNaN_normalize _ _ _
  exact isNaN_unpack_pack hadd

/-! ## Shifts -/

/-- The number that a mantissa stands for with its residual bits is at most a given one. -/
def AtMost (em : ExtendedMantissa) (c : ℕ) : Prop :=
  em.mantissa < c ∨ em.mantissa = c ∧ em.roundBit = false ∧ em.stickyBit = false

theorem AtMost.shiftRightOne {em : ExtendedMantissa} {c : ℕ} (h : AtMost em (2 * c)) :
    AtMost em.shiftRightOne c := by
  rcases h with hlt | ⟨heq, hround, hsticky⟩
  · exact .inl (Nat.div_lt_of_lt_mul hlt)
  · refine .inr ⟨?_, ?_, ?_⟩
    · rw [ExtendedMantissa.shiftRightOne, heq, Nat.mul_div_cancel_left _ Nat.two_pos]
    · rw [ExtendedMantissa.shiftRightOne, heq, Nat.mul_mod_right]
      rfl
    · rw [ExtendedMantissa.shiftRightOne, hround, hsticky]
      rfl

theorem AtMost.shiftRight {em : ExtendedMantissa} {c k : ℕ} (h : AtMost em (c * 2 ^ k)) :
    AtMost (em >>> k) c := by
  induction k generalizing c with
  | zero =>
    rw [Nat.pow_zero, Nat.mul_one] at h
    exact h
  | succ k ih =>
    have hstep : em >>> (k + 1) = (em >>> k).shiftRightOne := rfl
    rw [hstep]
    refine (ih ?_).shiftRightOne
    rwa [Nat.mul_comm 2, Nat.mul_assoc, ← Nat.pow_succ']

/-- Rounding does not pass a number without residual bits. -/
theorem AtMost.roundedMantissa_le {em : ExtendedMantissa} {c : ℕ} (h : AtMost em c) :
    em.roundedMantissa ≤ c := by
  obtain ⟨m, round, sticky⟩ := em
  rcases h with hlt | ⟨heq, hround, hsticky⟩
  · refine Nat.le_trans ?_ (Nat.succ_le_of_lt hlt)
    rw [ExtendedMantissa.roundedMantissa]
    cases round <;> cases sticky
    · exact Nat.le_succ m
    · exact Nat.le_succ m
    · exact Nat.add_le_add_left (Nat.le_of_lt_succ (Nat.mod_lt m Nat.two_pos)) m
    · exact Nat.le_refl (m + 1)
  · cases hround
    cases hsticky
    exact Nat.le_of_eq heq

/-! ## Rounding -/

theorem log2_lt_of_lt {m k : ℕ} (hk : 0 < k) (h : m < 2 ^ k) : m.log2 < k := by
  by_cases hm : m = 0
  · subst hm
    exact hk
  · exact (Nat.log2_lt hm).mpr h

/-- The exponent at which a number is rounded. -/
def roundingExponent (m : ℕ) (e : ℤ) : ℤ :=
  max e (max (m.log2 + 1 + e - 24) (-149))

theorem shiftToTargetExponent_exact (m : ℕ) (e : ℤ) :
    shiftToTargetExponent binary32 m e .exact =
      ((⟨m, false, false⟩ : ExtendedMantissa) >>> (roundingExponent m e - e).toNat,
        roundingExponent m e) := by
  have htarget : binary32.targetExponent (Float.Model.totalExponent m e) =
      max (m.log2 + 1 + e - 24) (-149) := rfl
  have hshift : (binary32.targetExponent (Float.Model.totalExponent m e) - e).toNat =
      (roundingExponent m e - e).toNat := by
    rw [htarget, roundingExponent]
    omega
  rw [shiftToTargetExponent, shiftToExponent, hshift]
  refine Prod.ext rfl ?_
  have hle : e ≤ roundingExponent m e := le_max_left _ _
  dsimp only
  omega

theorem roundingExponent_le {m : ℕ} {e : ℤ} (he : e ≤ 104)
    (hm : m ≤ (2 ^ 24 - 1) * 2 ^ (104 - e).toNat) : roundingExponent m e ≤ 104 := by
  have hlog : m.log2 < 24 + (104 - e).toNat := by
    refine log2_lt_of_lt (by omega) (Nat.lt_of_le_of_lt hm ?_)
    rw [Nat.pow_add]
    exact Nat.mul_lt_mul_of_pos_right (by decide) (Nat.two_pow_pos _)
  rw [roundingExponent]
  omega

theorem log2_roundedMantissa_le {m : ℕ} {e : ℤ} (he : e ≤ 104)
    (hm : m ≤ (2 ^ 24 - 1) * 2 ^ (104 - e).toNat) :
    ((⟨m, false, false⟩ : ExtendedMantissa) >>>
      (roundingExponent m e - e).toNat).roundedMantissa.log2 + roundingExponent m e ≤ 127 := by
  have hle := roundingExponent_le he hm
  rcases hle.lt_or_eq with hlt | heq
  · have hmost : AtMost ⟨m, false, false⟩ (2 ^ 24 * 2 ^ (roundingExponent m e - e).toNat) := by
      refine .inl (Nat.lt_of_lt_of_le (Nat.lt_log2_self : m < 2 ^ (m.log2 + 1)) ?_)
      rw [← Nat.pow_add]
      refine Nat.pow_le_pow_right Nat.two_pos ?_
      rw [roundingExponent]
      omega
    have hlog := log2_lt_of_lt (k := 25) (by decide)
      (Nat.lt_of_le_of_lt hmost.shiftRight.roundedMantissa_le (by decide))
    omega
  · have hmost : AtMost ⟨m, false, false⟩
        ((2 ^ 24 - 1) * 2 ^ (roundingExponent m e - e).toNat) := by
      rw [heq]
      rcases hm.lt_or_eq with hlt | heq
      · exact .inl hlt
      · exact .inr ⟨heq, rfl, rfl⟩
    have hlog := log2_lt_of_lt (k := 24) (by decide)
      (Nat.lt_of_le_of_lt hmost.shiftRight.roundedMantissa_le (by decide))
    omega

/-- A number that is at most the greatest finite one does not overflow. -/
theorem isFinite_roundWithAccuracy {s : Sign} {m : ℕ} {e : ℤ} (he : e ≤ 104)
    (hm : m ≤ (2 ^ 24 - 1) * 2 ^ (104 - e).toNat) :
    (unpack binary32
      (pack binary32 (roundWithAccuracy binary32 s m e .exact))).isFinite = true := by
  have hle := roundingExponent_le he hm
  have hlog := log2_roundedMantissa_le he hm
  rw [roundWithAccuracy, shiftToTargetExponent_exact]
  dsimp only
  rw [shiftToTargetExponent_exact]
  dsimp only
  split_ifs with hzero
  · exact isFinite_unpack_pack_zero s
  · refine isFinite_unpack_pack ?_
    rw [roundingExponent]
    omega

/-! ## Products -/

theorem rank_one : rank 1 = toLex (1, toLex (-23, 2 ^ 23)) := by decide +kernel

theorem rank_neg_one : rank (-1) = toLex (-1, toLex (23, -2 ^ 23)) := by decide +kernel

theorem unpack_of_unit {x : Float32} (hlower : -1 ≤ x) (hupper : x ≤ 1) :
    (∃ s, x.toModel.unpack = .zero s) ∨
      ∃ s m e h, x.toModel.unpack = .finite s m e h ∧ e ≤ -23 ∧ m ≤ 2 ^ (-e).toNat := by
  obtain ⟨⟨-, hx⟩, hlower⟩ := le_iff.mp hlower
  obtain ⟨-, hupper⟩ := le_iff.mp hupper
  rw [rank_neg_one] at hlower
  rw [rank_one] at hupper
  have hx : x.toModel.unpack.isNaN = false := hx
  rw [rank] at hlower hupper
  generalize hf : x.toModel.unpack = f at hx hlower hupper
  cases f with
  | notANumber => cases hx
  | infinity s =>
    cases s with
    | negative => exact absurd hlower (by decide)
    | positive => exact absurd hupper (by decide)
  | zero s => exact .inl ⟨s, rfl⟩
  | finite s m e h =>
    have hbound : e < -23 ∨ e = -23 ∧ m ≤ 2 ^ 23 := by
      cases s with
      | negative =>
        simp only [unpackedRank, Prod.Lex.toLex_le_toLex] at hlower
        omega
      | positive =>
        simp only [unpackedRank, Prod.Lex.toLex_le_toLex] at hupper
        omega
    obtain ⟨hm, -⟩ := bounds_of_unpack hf
    refine .inr ⟨s, m, e, h, rfl, by omega, ?_⟩
    rcases hbound with he | ⟨rfl, hm⟩
    · exact Nat.le_trans hm.le (Nat.pow_le_pow_right Nat.two_pos (by omega))
    · exact hm

/-- A product of which one factor is at most one is at most the other factor, so it does not
overflow. -/
theorem isFinite_mul {x y : Float32} (hlower : -1 ≤ x) (hupper : x ≤ 1) (hy : y.isFinite = true) :
    (x * y).isFinite = true := by
  have hmul : (unpack binary32 (pack binary32
      (UnpackedFloat.mul binary32 x.toModel.unpack y.toModel.unpack))).isFinite = true := by
    have hy : y.toModel.unpack.isFinite = true := hy
    generalize hg : y.toModel.unpack = g at hy
    rcases unpack_of_unit hlower hupper with ⟨s, hx⟩ | ⟨s, m, e, h, hx, he, hm⟩
    · rw [hx]
      cases g with
      | notANumber | infinity _ => cases hy
      | zero s' | finite s' _ _ _ => exact isFinite_unpack_pack_zero (s * s')
    · rw [hx]
      cases g with
      | notANumber | infinity _ => cases hy
      | zero s' => exact isFinite_unpack_pack_zero (s * s')
      | finite s' m' e' h' =>
        obtain ⟨hm', he'⟩ := bounds_of_unpack hg
        refine isFinite_roundWithAccuracy (by omega) ?_
        calc m * m' ≤ 2 ^ (-e).toNat * (2 ^ 24 - 1) := Nat.mul_le_mul hm (by omega)
          _ = (2 ^ 24 - 1) * 2 ^ (-e).toNat := Nat.mul_comm _ _
          _ ≤ (2 ^ 24 - 1) * 2 ^ (104 - (e + e')).toNat :=
            Nat.mul_le_mul_left _ (Nat.pow_le_pow_right Nat.two_pos (by omega))
  exact hmul

end Lindenmayer.Single
