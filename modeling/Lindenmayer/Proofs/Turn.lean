import Lindenmayer.Pose
import Mathlib.Algebra.Order.Ring.Int
import Mathlib.Data.Int.ModEq
import Mathlib.Tactic.Ring

/-!
# Turns in exact integers

A turn adds a number of directions, its quanta, to a heading. The sum is formed in a word of 64 bits
before it is reduced. With up to `2 ^ 63` directions no sum of a turn leaves the word, and what the
words compute is the residue of the exact sum.
-/

namespace Lindenmayer

namespace Turn

/-- The directions that a turn adds, counter-clockwise, among `n`. -/
def quanta (n : ℕ) : Turn → ℤ
  | .right => -1
  | .left => 1
  | .around => (n / 2 : ℕ)

/-- A turn stays among the directions, also where its sum leaves the word. -/
theorem heading_lt {n : UInt64} (hn : 0 < n) (u : Turn) (h : UInt64) : u.heading n h < n := by
  cases u <;> exact UInt64.mod_lt _ hn

/-- **Turns are exact.** -/
theorem toNat_heading {n h : UInt64} (hn : n.toNat ≤ 2 ^ 63) (hh : h < n) (u : Turn) :
    ((u.heading n h).toNat : ℤ) = (h.toNat + u.quanta n.toNat) % n.toNat := by
  rw [UInt64.lt_iff_toNat_lt] at hh
  cases u with
  | right =>
    have hsum : (h + n).toNat = h.toNat + n.toNat := by
      rw [UInt64.toNat_add, Nat.mod_eq_of_lt (by omega)]
    -- a whole turn is added before the quantum is taken off, so the word does not borrow
    have hone : (1 : UInt64) ≤ h + n := by
      rw [UInt64.le_iff_toNat_le, hsum, UInt64.toNat_one]
      omega
    rw [heading, UInt64.toNat_mod, UInt64.toNat_sub_of_le _ _ hone, hsum, UInt64.toNat_one, quanta,
      Int.natCast_mod, Nat.cast_sub (by omega), Nat.cast_add,
      show (h.toNat + n.toNat - (1 : ℕ) : ℤ) = h.toNat + -1 + n.toNat by push_cast; ring,
      Int.add_emod_right]
  | left =>
    rw [heading, UInt64.toNat_mod, UInt64.toNat_add, UInt64.toNat_one,
      Nat.mod_eq_of_lt (show h.toNat + 1 < 2 ^ 64 by omega), quanta, Int.natCast_mod, Nat.cast_add,
      Nat.cast_one]
  | around =>
    have hhalf : (n / 2).toNat = n.toNat / 2 := by rw [UInt64.toNat_div]; rfl
    rw [heading, UInt64.toNat_mod, UInt64.toNat_add, hhalf,
      Nat.mod_eq_of_lt (show h.toNat + n.toNat / 2 < 2 ^ 64 by omega), quanta, Int.natCast_mod,
      Nat.cast_add]

end Turn

end Lindenmayer
