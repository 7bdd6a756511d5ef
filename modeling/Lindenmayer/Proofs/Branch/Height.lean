import Lindenmayer.Lexicon
import Mathlib.Data.List.Infix
import Mathlib.Order.Bounds.Basic
import Mathlib.Tactic.Ring

/-!
# Heights of sequences of operations

The height of a sequence of operations is the number of branches it opens, less the number it
closes. Three notions are read off the heights of its prefixes: a sequence is *legal* when none is
below zero, so that no branch is closed that was not open; it is *balanced* when it is legal and its
own height is zero; and its *depth* is the greatest of them.

Prefixes are compared with heights, never with a stack. That a turtle's stack is as high as the
sequence it has followed is a theorem about walks.
-/

namespace Lindenmayer

namespace Op

/-! ## Prefixes -/

theorem prefix_append_iff {α : Type} {p u v : List α} :
    p <+: u ++ v ↔ p <+: u ∨ ∃ q, q <+: v ∧ p = u ++ q := by
  constructor
  · intro h
    rcases List.prefix_or_prefix_of_prefix h (List.prefix_append u v) with h' | ⟨q, rfl⟩
    · exact Or.inl h'
    · exact Or.inr ⟨q, (List.prefix_append_right_inj u).mp h, rfl⟩
  · rintro (h | ⟨q, hq, rfl⟩)
    · exact h.trans (List.prefix_append u v)
    · exact (List.prefix_append_right_inj u).mpr hq

/-! ## Height -/

/-- The branches that a sequence of operations opens, less those that it closes. -/
def height (ops : List Op) : ℤ := ops.count .push - ops.count .pop

@[simp] theorem height_nil : height [] = 0 := rfl

@[simp] theorem height_push : height [.push] = 1 := rfl

@[simp] theorem height_pop : height [.pop] = -1 := rfl

theorem height_singleton {op : Op} (hpush : op ≠ .push) (hpop : op ≠ .pop) : height [op] = 0 := by
  rw [height, List.count_singleton, List.count_singleton, beq_false_of_ne hpush,
    beq_false_of_ne hpop]
  rfl

theorem height_append (u v : List Op) : height (u ++ v) = height u + height v := by
  rw [height, height, height, List.count_append, List.count_append]
  push_cast
  ring

theorem height_cons (op : Op) (ops : List Op) : height (op :: ops) = height [op] + height ops :=
  height_append [op] ops

/-! ## Legal sequences -/

/-- No branch is closed that was not open. -/
def Legal (ops : List Op) : Prop := ∀ u, u <+: ops → 0 ≤ height u

instance : DecidablePred Legal := fun ops ↦
  decidable_of_iff (∀ u ∈ ops.inits, 0 ≤ height u) (by simp only [List.mem_inits, Legal])

theorem Legal.height_nonneg {ops : List Op} (h : Legal ops) : 0 ≤ height ops :=
  h ops (List.prefix_refl ops)

theorem Legal.of_prefix {u v : List Op} (h : Legal v) (huv : u <+: v) : Legal u :=
  fun p hp ↦ h p (hp.trans huv)

theorem legal_nil : Legal [] := by
  intro u hu
  rw [List.prefix_nil.mp hu, height_nil]

theorem Legal.append {u v : List Op} (hu : Legal u) (hv : Legal v) : Legal (u ++ v) := by
  intro p hp
  rcases prefix_append_iff.mp hp with h | ⟨q, hq, rfl⟩
  · exact hu p h
  · rw [height_append]
    exact add_nonneg hu.height_nonneg (hv q hq)

theorem legal_append_singleton_iff {ops : List Op} {op : Op} :
    Legal (ops ++ [op]) ↔ Legal ops ∧ 0 ≤ height (ops ++ [op]) := by
  constructor
  · intro h
    exact ⟨h.of_prefix (List.prefix_append _ _), h.height_nonneg⟩
  · rintro ⟨h, hlast⟩ p hp
    rcases List.prefix_concat_iff.mp hp with rfl | hp
    · exact hlast
    · exact h p hp

theorem not_legal_of_append_pop {u v : List Op} (h : height u = 0) : ¬Legal (u ++ .pop :: v) := by
  intro hlegal
  have hpre : u ++ [.pop] <+: u ++ .pop :: v := ⟨v, by simp⟩
  have := hlegal _ hpre
  rw [height_append, height_pop, h] at this
  omega

/-! ## Balanced sequences -/

/-- Every branch that is opened is closed, and no other one. -/
structure Balanced (ops : List Op) : Prop where
  /-- No branch is closed that was not open. -/
  legal : Legal ops
  /-- As many branches are closed as are opened. -/
  level : height ops = 0

instance : DecidablePred Balanced := fun ops ↦
  decidable_of_iff (Legal ops ∧ height ops = 0) ⟨fun h ↦ ⟨h.1, h.2⟩, fun h ↦ ⟨h.1, h.2⟩⟩

theorem balanced_nil : Balanced [] := ⟨legal_nil, height_nil⟩

theorem Balanced.append {u v : List Op} (hu : Balanced u) (hv : Balanced v) :
    Balanced (u ++ v) where
  legal := hu.legal.append hv.legal
  level := by rw [height_append, hu.level, hv.level, add_zero]

theorem balanced_singleton {op : Op} (hpush : op ≠ .push) (hpop : op ≠ .pop) :
    Balanced [op] where
  legal := by
    rw [← List.nil_append [op], legal_append_singleton_iff, List.nil_append,
      height_singleton hpush hpop]
    exact ⟨legal_nil, le_refl 0⟩
  level := height_singleton hpush hpop

/-- The branch with the given operations between its ends. -/
def branch (ops : List Op) : List Op := .push :: (ops ++ [.pop])

@[simp] theorem length_branch (ops : List Op) : (branch ops).length = ops.length + 2 := by
  rw [branch, List.length_cons, List.length_append, List.length_singleton]

theorem append_push_append_pop (u b : List Op) : (u ++ .push :: b) ++ [.pop] = u ++ branch b := by
  rw [List.append_assoc, List.cons_append, branch]

theorem Balanced.branch {ops : List Op} (h : Balanced ops) : Balanced (branch ops) := by
  have hlevel : height (Op.branch ops) = 0 := by
    rw [Op.branch, height_cons, height_append, h.level, height_push, height_pop]
    ring
  refine ⟨?_, hlevel⟩
  -- only the last operation goes down, and it comes to zero
  have hopen : Legal ([.push] ++ ops) := Legal.append (by decide) h.legal
  rw [show Op.branch ops = ([.push] ++ ops) ++ [.pop] from rfl] at hlevel ⊢
  exact legal_append_singleton_iff.mpr ⟨hopen, hlevel.ge⟩

/-! ## Depth -/

/-- The greatest height of a prefix. -/
def depth (ops : List Op) : ℕ := (ops.inits.map fun u ↦ (height u).toNat).foldr max 0

theorem foldr_max_le_iff {l : List ℕ} {d : ℕ} : l.foldr max 0 ≤ d ↔ ∀ x ∈ l, x ≤ d := by
  induction l with
  | nil => simp
  | cons x l ih => rw [List.foldr_cons, max_le_iff, ih, List.forall_mem_cons]

theorem depth_le_iff {ops : List Op} {d : ℕ} :
    depth ops ≤ d ↔ ∀ u, u <+: ops → height u ≤ d := by
  rw [depth, foldr_max_le_iff]
  simp only [List.mem_map, List.mem_inits, forall_exists_index, and_imp, forall_apply_eq_imp_iff₂,
    Int.toNat_le]

theorem height_le_depth {u ops : List Op} (h : u <+: ops) : height u ≤ depth ops :=
  depth_le_iff.mp (le_refl _) u h

/-- The depth is the height of a prefix, and no prefix is higher. -/
theorem isGreatest_depth (ops : List Op) :
    IsGreatest {h : ℤ | ∃ u, u <+: ops ∧ h = u.count .push - u.count .pop} (depth ops) := by
  refine ⟨?_, fun h ⟨u, hu, heq⟩ ↦ heq ▸ height_le_depth hu⟩
  -- a depth that no prefix attains could be lowered by one; the empty prefix keeps it above zero
  by_contra hnone
  have hlt : ∀ u, u <+: ops → height u < depth ops := fun u hu ↦
    lt_of_le_of_ne (height_le_depth hu) fun he ↦ hnone ⟨u, hu, he.symm⟩
  have hpos : height [] < depth ops := hlt [] List.nil_prefix
  rw [height_nil] at hpos
  have hle : depth ops ≤ depth ops - 1 := depth_le_iff.mpr fun u hu ↦ by
    have := hlt u hu
    omega
  omega

theorem depth_append_singleton (ops : List Op) (op : Op) :
    depth (ops ++ [op]) = max (depth ops) (height (ops ++ [op])).toNat := by
  refine eq_of_forall_ge_iff fun d ↦ ?_
  rw [max_le_iff, depth_le_iff, depth_le_iff, Int.toNat_le]
  constructor
  · intro h
    exact ⟨fun u hu ↦ h u (hu.trans (List.prefix_append _ _)), h _ (List.prefix_refl _)⟩
  · rintro ⟨h, hlast⟩ u hu
    rcases List.prefix_concat_iff.mp hu with rfl | hu
    · exact hlast
    · exact h u hu

end Op

end Lindenmayer
