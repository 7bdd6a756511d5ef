import Lindenmayer.Proofs.Turn
import Mathlib.Algebra.BigOperators.Group.List.Basic
import Mathlib.Algebra.Ring.Parity

/-!
# Sequences of turns

Turns act on the headings as integers do on the residues modulo the number of directions: each adds
its quanta, and a sequence adds the sum of them. So a sequence is known by one residue. Sequences
with the same residue are interchangeable, and every law of the turns is a congruence between two
sums: their order is irrelevant, left and right undo each other, as many equal turns as there are
directions do nothing, and two turns around do nothing or, where there is no opposite direction,
are one quantum short of it.

## The last safe number of directions

All this is said of words. With up to `2 ^ 63` directions the sum of a heading and their number is
below `2 ^ 64`, and no turn forms a greater one. The bound is sharp: with a single direction more,
the greatest heading is taken by a right turn to another place than its neighbour.
-/

namespace Lindenmayer

variable {n h : UInt64} {p : Pose}

/-! ## Sums -/

namespace Turn

/-- The sum that a turn forms before it takes anything off or reduces, as an exact number. -/
def sum (n h : UInt64) : Turn → ℕ
  | .right => h.toNat + n.toNat
  | .left => h.toNat + 1
  | .around => h.toNat + n.toNat / 2

theorem heading_eq_ofNat_sum (n h : UInt64) (u : Turn) :
    u.heading n h = (.ofNat (u.sum n h) - if u = .right then 1 else 0) % n := by
  have hhalf : n / 2 = .ofNat (n.toNat / 2) := by
    rw [← UInt64.toNat_inj, UInt64.toNat_div, UInt64.toNat_ofNat_of_lt']
    · rfl
    · exact (Nat.div_le_self _ _).trans_lt n.toNat_lt
  rcases u with - | - | -
  · rw [heading, sum, UInt64.ofNat_add, UInt64.ofNat_toNat, UInt64.ofNat_toNat, if_pos rfl]
  · rw [heading, sum, UInt64.ofNat_add, UInt64.ofNat_toNat, if_neg (by decide), UInt64.sub_zero]
    rfl
  · rw [heading, sum, UInt64.ofNat_add, UInt64.ofNat_toNat, ← hhalf, if_neg (by decide),
      UInt64.sub_zero]

theorem sum_lt (hmax : n.toNat ≤ 2 ^ 63) (hh : h < n) (u : Turn) : u.sum n h < 2 ^ 64 := by
  rw [UInt64.lt_iff_toNat_lt] at hh
  rcases u with - | - | - <;> rw [sum] <;> omega

/-- The quanta of a sequence of turns among `n` directions. -/
def total (n : ℕ) (turns : List Turn) : ℤ := (turns.map (quanta n)).sum

theorem total_cons (n : ℕ) (u : Turn) (turns : List Turn) :
    total n (u :: turns) = u.quanta n + total n turns := List.sum_cons

theorem total_replicate (n k : ℕ) (u : Turn) : total n (List.replicate k u) = k * u.quanta n := by
  rw [total, List.map_replicate, List.sum_replicate, nsmul_eq_mul]

theorem total_perm {n : ℕ} {turns turns' : List Turn} (h : turns.Perm turns') :
    total n turns = total n turns' := (h.map _).sum_eq

theorem total_eq_count (n : ℕ) (turns : List Turn) :
    total n turns =
      turns.count .left - turns.count .right + turns.count .around * (n / 2 : ℕ) := by
  induction turns with
  | nil => simp [total]
  | cons u turns ih =>
    rw [total_cons, ih]
    rcases u with - | - | - <;> simp [quanta] <;> ring

end Turn

/-! ## Poses -/

namespace Pose

/-- The pose after turns, one after another, unless there are no directions to turn to. -/
def turns? (n : UInt64) (turns : List Turn) (p : Pose) : Option Pose :=
  turns.foldlM (fun p u ↦ p.turn? n u) p

@[simp] theorem turns?_nil (n : UInt64) (p : Pose) : p.turns? n [] = some p := rfl

theorem turns?_cons (hn : 0 < n) (u : Turn) (turns : List Turn) (p : Pose) :
    p.turns? n (u :: turns) = (p.turn n u).turns? n turns := by
  have hturn : p.turn? n u = some (p.turn n u) := if_neg (UInt64.pos_iff_ne_zero.mp hn)
  rw [turns?, List.foldlM_cons, hturn]
  rfl

theorem exists_turns? (hn : 0 < n) (hmax : n.toNat ≤ 2 ^ 63) (hp : p.heading < n)
    (turns : List Turn) :
    ∃ q, p.turns? n turns = some q ∧ q.position = p.position ∧ q.heading < n ∧
      (q.heading.toNat : ℤ) = (p.heading.toNat + Turn.total n.toNat turns) % n.toNat := by
  induction turns generalizing p with
  | nil =>
    refine ⟨p, rfl, rfl, hp, ?_⟩
    rw [UInt64.lt_iff_toNat_lt] at hp
    rw [Turn.total, List.map_nil, List.sum_nil, add_zero,
      Int.emod_eq_of_lt (Int.natCast_nonneg _) (Int.ofNat_lt.mpr hp)]
  | cons u turns ih =>
    obtain ⟨q, hq, hposition, hlt, hheading⟩ := ih (p := p.turn n u) (u.heading_lt hn _)
    refine ⟨q, (turns?_cons hn u turns p).trans hq, hposition, hlt, ?_⟩
    rw [hheading, turn, u.toNat_heading hmax hp, Int.emod_add_emod, add_assoc, Turn.total_cons]

/-- Sequences of turns with congruent quanta are interchangeable. -/
theorem turns?_congr (hn : 0 < n) (hmax : n.toNat ≤ 2 ^ 63) (hp : p.heading < n)
    {turns turns' : List Turn}
    (h : Turn.total n.toNat turns ≡ Turn.total n.toNat turns' [ZMOD n.toNat]) :
    p.turns? n turns = p.turns? n turns' := by
  obtain ⟨q, hq, hposition, -, hheading⟩ := exists_turns? hn hmax hp turns
  obtain ⟨q', hq', hposition', -, hheading'⟩ := exists_turns? hn hmax hp turns'
  have hsame : (q.heading.toNat : ℤ) = q'.heading.toNat := by
    rw [hheading, hheading']
    exact h.add_left _
  have heq : q = q' := by
    rw [Pose.mk.injEq]
    exact ⟨UInt64.toNat_inj.mp (Int.ofNat_inj.mp hsame), hposition.trans hposition'.symm⟩
  rw [hq, hq', heq]

theorem turns?_eq_some (hn : 0 < n) (hmax : n.toNat ≤ 2 ^ 63) (hp : p.heading < n)
    {turns : List Turn} (h : Turn.total n.toNat turns ≡ 0 [ZMOD n.toNat]) :
    p.turns? n turns = some p := by
  rw [← turns?_nil n p]
  exact turns?_congr hn hmax hp h

end Pose

namespace Turn

theorem total_around_of_even {n : ℕ} (h : Even n) : total n [.around, .around] ≡ 0 [ZMOD n] := by
  obtain ⟨k, rfl⟩ := h
  have htotal : total (k + k) [.around, .around] = (k + k : ℕ) := by
    simp only [total, List.map_cons, List.map_nil, List.sum_cons, List.sum_nil, quanta]
    omega
  rw [htotal]
  exact Int.modEq_zero_iff_dvd.mpr dvd_rfl

theorem total_around_of_odd {n : ℕ} (h : Odd n) :
    total n [.around, .around] ≡ total n [.right] [ZMOD n] := by
  obtain ⟨k, rfl⟩ := h
  refine (Int.modEq_iff_dvd.mpr ⟨1, ?_⟩).symm
  simp only [total, List.map_cons, List.map_nil, List.sum_cons, List.sum_nil, quanta]
  omega

/-- Beyond `2 ^ 63` directions a right turn from the greatest heading wraps around. -/
theorem heading_right_ne (hmax : 2 ^ 63 < n.toNat) : right.heading n (n - 1) ≠ n - 2 := by
  have hbound := n.toNat_lt
  have hone : (n - 1).toNat = n.toNat - 1 :=
    UInt64.toNat_sub_of_le _ _ (UInt64.le_iff_toNat_le.mpr (show 1 ≤ n.toNat by omega))
  have htwo : (n - 2).toNat = n.toNat - 2 :=
    UInt64.toNat_sub_of_le _ _ (UInt64.le_iff_toNat_le.mpr (show 2 ≤ n.toNat by omega))
  have hsum : (n - 1 + n).toNat = 2 * n.toNat - 1 - 2 ^ 64 := by
    rw [UInt64.toNat_add, hone]
    omega
  have hright : (right.heading n (n - 1)).toNat = 2 * n.toNat - 2 - 2 ^ 64 := by
    rw [heading, UInt64.toNat_mod,
      UInt64.toNat_sub_of_le _ _ (UInt64.le_iff_toNat_le.mpr (show 1 ≤ _ by omega)), hsum,
      UInt64.toNat_one, Nat.mod_eq_of_lt (by omega)]
    omega
  intro heq
  rw [heq, htwo] at hright
  omega

end Turn

/-- **Turns are cyclic.** Among up to `2 ^ 63` directions every sequence of turns has a result. No
sum on the way leaves the word, each heading is below the number of directions, the place stays, and
the last heading is the residue of the exact sum of the quanta. So the order of the turns is
irrelevant, left and right undo each other, as many equal turns as there are directions do nothing,
and two turns around do nothing among an even number of directions and are a right turn among an odd
one. Beyond `2 ^ 63` directions a right turn from the greatest heading misses its neighbour. -/
theorem Pose.turns_cyclic (n : UInt64) :
    (0 < n → n.toNat ≤ 2 ^ 63 → ∀ p : Pose, p.heading < n →
      (∀ turns : List Turn,
        (∀ before u, before ++ [u] <+: turns → ∃ q, p.turns? n before = some q ∧
          q.heading < n ∧ u.sum n q.heading ≤ 2 ^ 64 - 1 ∧ u.heading n q.heading =
            (.ofNat (u.sum n q.heading) - if u = .right then 1 else 0) % n) ∧
        (∃ q, p.turns? n turns = some q ∧ q.position = p.position ∧ q.heading < n ∧
          (q.heading.toNat : ℤ) = (p.heading.toNat + turns.count .left - turns.count .right
            + turns.count .around * (n.toNat / 2 : ℕ)) % n.toNat) ∧
        ∀ turns' : List Turn, turns'.Perm turns → p.turns? n turns' = p.turns? n turns) ∧
      p.turns? n [.right, .left] = some p ∧ p.turns? n [.left, .right] = some p ∧
      (∀ u, p.turns? n (List.replicate n.toNat u) = some p) ∧
      (Even n.toNat → p.turns? n [.around, .around] = some p) ∧
      (Odd n.toNat → p.turns? n [.around, .around] = p.turns? n [.right])) ∧
    (2 ^ 63 < n.toNat → Turn.right.heading n (n - 1) ≠ n - 2) := by
  refine ⟨fun hn hmax p hp ↦ ⟨fun turns ↦ ⟨?_, ?_, ?_⟩, ?_, ?_, fun u ↦ ?_, fun heven ↦ ?_,
    fun hodd ↦ ?_⟩, Turn.heading_right_ne⟩
  · intro before u _
    obtain ⟨q, hq, -, hlt, -⟩ := exists_turns? hn hmax hp before
    exact ⟨q, hq, hlt, Nat.le_sub_one_of_lt (u.sum_lt hmax hlt),
      Turn.heading_eq_ofNat_sum n q.heading u⟩
  · obtain ⟨q, hq, hposition, hlt, hheading⟩ := exists_turns? hn hmax hp turns
    refine ⟨q, hq, hposition, hlt, ?_⟩
    rw [hheading, Turn.total_eq_count, ← add_assoc, ← add_sub_assoc]
  · intro turns' hperm
    exact turns?_congr hn hmax hp (Turn.total_perm hperm ▸ Int.ModEq.refl _)
  · exact turns?_eq_some hn hmax hp (Int.ModEq.refl 0)
  · exact turns?_eq_some hn hmax hp (Int.ModEq.refl 0)
  · refine turns?_eq_some hn hmax hp ?_
    rw [Turn.total_replicate]
    exact Int.modEq_zero_iff_dvd.mpr (dvd_mul_right _ _)
  · exact turns?_eq_some hn hmax hp (Turn.total_around_of_even heven)
  · exact turns?_congr hn hmax hp (Turn.total_around_of_odd hodd)

/-- The greatest number of directions that is safe, from the greatest heading, and the number behind
it. -/
theorem Pose.turns_cyclic_greatest :
    let n : UInt64 := 9223372036854775808
    let p : Pose := ⟨n - 1, ⟨3, -2⟩⟩
    let turns : List Turn := [.right, .around, .left, .left, .left, .around]
    0 < n ∧ n.toNat ≤ 2 ^ 63 ∧ p.heading < n ∧ 2 ^ 63 < (n + 1).toNat ∧
      p.turns? n turns = some ⟨1, ⟨3, -2⟩⟩ ∧ p.turns? n turns.reverse = some ⟨1, ⟨3, -2⟩⟩ ∧
      p.turns? n (List.replicate n.toNat .around) = some p ∧
      Turn.right.heading (n + 1) (n + 1 - 1) ≠ n + 1 - 2 := by
  intro n p turns
  have hn : 0 < n := by decide
  have hmax : n.toNat ≤ 2 ^ 63 := by decide
  have hp : p.heading < n := by decide
  have hbeyond : 2 ^ 63 < (n + 1).toNat := by decide
  have hturns : p.turns? n turns = some ⟨1, ⟨3, -2⟩⟩ := by decide +kernel
  obtain ⟨hsequences, -, -, hequal, -, -⟩ := (turns_cyclic n).1 hn hmax p hp
  obtain ⟨-, -, hperm⟩ := hsequences turns
  exact ⟨hn, hmax, hp, hbeyond, hturns, (hperm _ turns.reverse_perm).trans hturns, hequal .around,
    (turns_cyclic (n + 1)).2 hbeyond⟩

end Lindenmayer
