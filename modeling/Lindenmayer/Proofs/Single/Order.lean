import Lindenmayer.Point
import Mathlib

/-!
# The order of single-precision numbers

Comparisons are made on unpacked numbers: class by class, then by exponent, then by mantissa. They
are a total order of everything but the one datum that is not a number, with which nothing compares.
The order is that of integer triples, the ranks of the numbers; the two zeros have one rank, so
numbers that compare equal need not be the same.

The lesser and the greater of two numbers, as boxes use them, are bounds of both, and each is one of
the two, bit for bit. With a datum that is not a number they are no bounds at all: it is lost as the
older one and kept as the newer one.
-/

namespace Lindenmayer.Single

open Float.Model (UnpackedFloat)
open Point (lesser greater)

/-! ## Ranks -/

/-- The place of an unpacked number in the order: its class, its exponent and its mantissa, the
latter two with the sign of the number. -/
def unpackedRank : UnpackedFloat → ℤ ×ₗ ℤ ×ₗ ℤ
  | .notANumber => toLex (0, toLex (0, 0))
  | .infinity .negative => toLex (-2, toLex (0, 0))
  | .infinity .positive => toLex (2, toLex (0, 0))
  | .zero _ => toLex (0, toLex (0, 0))
  | .finite .negative m e _ => toLex (-1, toLex (-e, -m))
  | .finite .positive m e _ => toLex (1, toLex (e, m))

/-- The place of a number in the order. -/
def rank (x : Float32) : ℤ ×ₗ ℤ ×ₗ ℤ := unpackedRank x.toModel.unpack

theorem compare_natCast (m n : ℕ) : compare (m : ℤ) n = compare m n := by
  rw [← cmp_eq_compare, ← cmp_eq_compare]
  exact Nat.strictMono_cast.cmp_map_eq m n

theorem compare_neg (i j : ℤ) : compare (-i) (-j) = (compare i j).swap := by
  rw [← cmp_eq_compare, ← cmp_eq_compare, cmp_swap]
  exact StrictAnti.cmp_map_eq (fun _ _ ↦ neg_lt_neg) i j

theorem compare_toLex (i j k i' j' k' : ℤ) :
    compare (toLex (i, toLex (j, k))) (toLex (i', toLex (j', k'))) =
      (compare i i').then ((compare j j').then (compare k k')) := rfl

theorem compare_eq_some {x y : UnpackedFloat} (hx : x.isNaN = false) (hy : y.isNaN = false) :
    x.compare y = some (compare (unpackedRank x) (unpackedRank y)) := by
  cases x with
  | notANumber => cases hx
  | infinity s =>
    cases y with
    | notANumber => cases hy
    | infinity s' | zero s' | finite s' _ _ _ => cases s <;> cases s' <;> rfl
  | zero s =>
    cases y with
    | notANumber => cases hy
    | zero s' => rfl
    | infinity s' | finite s' _ _ _ => cases s' <;> rfl
  | finite s m e _ =>
    cases y with
    | notANumber => cases hy
    | infinity s' | zero s' => cases s <;> cases s' <;> rfl
    | finite s' m' e' _ =>
      cases s with
      | negative =>
        cases s' with
        | negative =>
          rw [unpackedRank, unpackedRank, compare_toLex, compare_neg e e', compare_neg m m',
            compare_natCast, UnpackedFloat.compare, Ordering.swap_then]
          rfl
        | positive => rfl
      | positive =>
        cases s' with
        | negative => rfl
        | positive =>
          rw [unpackedRank, unpackedRank, compare_toLex, compare_natCast]
          rfl

theorem compare_eq_none {x y : UnpackedFloat} (h : x.isNaN = true ∨ y.isNaN = true) :
    x.compare y = none := by
  cases x with
  | notANumber => rfl
  | infinity s | zero s | finite s _ _ _ =>
    cases y with
    | notANumber => cases s <;> rfl
    | infinity s' | zero s' | finite s' _ _ _ => rcases h with h | h <;> cases h

/-! ## Comparisons -/

variable {x y z : Float32}

theorem isNaN_eq_false_of_compare {x y : UnpackedFloat} (h : x.compare y ≠ none) :
    x.isNaN = false ∧ y.isNaN = false :=
  ⟨Bool.not_eq_true _ ▸ fun hx ↦ h (compare_eq_none (.inl hx)),
    Bool.not_eq_true _ ▸ fun hy ↦ h (compare_eq_none (.inr hy))⟩

theorem le_iff : x ≤ y ↔ (x.isNaN = false ∧ y.isNaN = false) ∧ rank x ≤ rank y := by
  have hle : x ≤ y ↔ (x.toModel.unpack.compare y.toModel.unpack).any Ordering.isLE = true :=
    decide_eq_true_iff
  rw [hle]
  constructor
  · intro h
    have hnum := isNaN_eq_false_of_compare (x := x.toModel.unpack) (y := y.toModel.unpack)
      fun hnone ↦ by rw [hnone] at h; cases h
    rw [compare_eq_some hnum.1 hnum.2, Option.any_some, Ordering.isLE_iff_ne_gt] at h
    exact ⟨hnum, compare_le_iff_le.mp h⟩
  · rintro ⟨⟨hx, hy⟩, h⟩
    rw [compare_eq_some hx hy, Option.any_some, Ordering.isLE_iff_ne_gt]
    exact compare_le_iff_le.mpr h

theorem lt_iff (hx : x.isNaN = false) (hy : y.isNaN = false) : x < y ↔ rank x < rank y := by
  have hlt : x < y ↔ (x.toModel.unpack.compare y.toModel.unpack == some .lt) = true :=
    decide_eq_true_iff
  rw [hlt, compare_eq_some hx hy, beq_iff_eq, Option.some_inj]
  exact compare_lt_iff_lt

theorem le_refl (hx : x.isNaN = false) : x ≤ x :=
  le_iff.mpr ⟨⟨hx, hx⟩, le_rfl⟩

theorem le_trans (hxy : x ≤ y) (hyz : y ≤ z) : x ≤ z := by
  obtain ⟨⟨hx, -⟩, hxy⟩ := le_iff.mp hxy
  obtain ⟨⟨-, hz⟩, hyz⟩ := le_iff.mp hyz
  exact le_iff.mpr ⟨⟨hx, hz⟩, hxy.trans hyz⟩

theorem le_of_not_lt (hx : x.isNaN = false) (hy : y.isNaN = false) (h : ¬x < y) : y ≤ x := by
  rw [lt_iff hx hy, not_lt] at h
  exact le_iff.mpr ⟨⟨hy, hx⟩, h⟩

theorem le_of_lt (hx : x.isNaN = false) (hy : y.isNaN = false) (h : x < y) : x ≤ y :=
  le_iff.mpr ⟨⟨hx, hy⟩, ((lt_iff hx hy).mp h).le⟩

/-- Numbers that bound each other compare equal; they may be different zeros. -/
theorem beq_of_le_of_le (hxy : x ≤ y) (hyx : y ≤ x) : (x == y) = true := by
  have hbeq : (x == y) = (x.toModel.unpack.compare y.toModel.unpack == some .eq) := rfl
  obtain ⟨⟨hx, hy⟩, hle⟩ := le_iff.mp hxy
  obtain ⟨-, hge⟩ := le_iff.mp hyx
  rw [hbeq, compare_eq_some hx hy, beq_iff_eq, Option.some_inj]
  exact compare_eq_iff_eq.mpr (le_antisymm hle hge)

/-! ## The lesser and the greater -/

theorem lesser_eq_or (x y : Float32) : lesser x y = x ∨ lesser x y = y :=
  ite_eq_or_eq _ _ _

theorem greater_eq_or (x y : Float32) : greater x y = x ∨ greater x y = y :=
  ite_eq_or_eq _ _ _

theorem lesser_le (hx : x.isNaN = false) (hy : y.isNaN = false) :
    lesser x y ≤ x ∧ lesser x y ≤ y := by
  rw [lesser]
  by_cases h : x < y
  · rw [if_pos h]
    exact ⟨le_refl hx, le_of_lt hx hy h⟩
  · rw [if_neg h]
    exact ⟨le_of_not_lt hx hy h, le_refl hy⟩

theorem le_greater (hx : x.isNaN = false) (hy : y.isNaN = false) :
    x ≤ greater x y ∧ y ≤ greater x y := by
  rw [greater]
  by_cases h : y < x
  · rw [if_pos h]
    exact ⟨le_refl hx, le_of_lt hy hx h⟩
  · rw [if_neg h]
    exact ⟨le_of_not_lt hy hx h, le_refl hy⟩

/-! ## Least and greatest numbers -/

/-- Two numbers are the least and the greatest of a set of numbers. -/
structure Spans (A : Set Float32) (lower upper : Float32) : Prop where
  isNaN : ∀ x ∈ A, x.isNaN = false
  bounds : ∀ x ∈ A, lower ≤ x ∧ x ≤ upper
  lower : lower ∈ A
  upper : upper ∈ A

theorem spans_singleton (hx : x.isNaN = false) : Spans {x} x x := by
  refine ⟨?_, ?_, rfl, rfl⟩
  · rintro _ rfl
    exact hx
  · rintro _ rfl
    exact ⟨le_refl hx, le_refl hx⟩

theorem Spans.beq {A : Set Float32} {lower lower' upper upper' : Float32}
    (h : Spans A lower upper) (h' : Spans A lower' upper') :
    (lower == lower') = true ∧ (upper == upper') = true := by
  constructor
  · exact beq_of_le_of_le (h.bounds _ h'.lower).1 (h'.bounds _ h.lower).1
  · exact beq_of_le_of_le (h'.bounds _ h.upper).2 (h.bounds _ h'.upper).2

/-- One more number is within the lesser and the greater bound, and so are the others. -/
theorem Spans.insert {A : Set Float32} {lower upper : Float32} (h : Spans A lower upper)
    (hx : x.isNaN = false) : Spans (insert x A) (lesser lower x) (greater upper x) := by
  obtain ⟨hlower, hlowerx⟩ := lesser_le (h.isNaN _ h.lower) hx
  obtain ⟨hupper, hupperx⟩ := le_greater (h.isNaN _ h.upper) hx
  refine ⟨?_, ?_, ?_, ?_⟩
  · rintro a (rfl | ha)
    · exact hx
    · exact h.isNaN a ha
  · rintro a (rfl | ha)
    · exact ⟨hlowerx, hupperx⟩
    · obtain ⟨hlo, hup⟩ := h.bounds a ha
      exact ⟨le_trans hlower hlo, le_trans hup hupper⟩
  · rcases lesser_eq_or lower x with heq | heq
    · rw [heq]
      exact Set.mem_insert_of_mem x h.lower
    · rw [heq]
      exact Set.mem_insert x A
  · rcases greater_eq_or upper x with heq | heq
    · rw [heq]
      exact Set.mem_insert_of_mem x h.upper
    · rw [heq]
      exact Set.mem_insert x A

end Lindenmayer.Single
