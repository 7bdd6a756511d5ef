import Lindenmayer.Proofs.Branch.Height

/-!
# Pruning

A branch of a sequence of operations is closed when the operation that ends it is in the sequence
too. Pruning deletes the closed branches, ends included, and leaves what leads from the start to
where one is: the operations outside of all branches and those in the branches still open.

It is defined by places, for all of them at once: a place is deleted when it lies between an opening
and the closing that belongs to it, and these belong together when what stands between them is
balanced. Two equations are all that a walk needs to know. An operation that closes nothing is kept,
and a closed branch at the end is deleted without a trace.

The strokes of a sequence are what is left of it before each of its steps with the pen down.
-/

namespace Lindenmayer

namespace Op

/-! ## Closed branches -/

/-- The branch that is opened at place `i` is closed at place `j`. -/
structure Closes (ops : List Op) (i j : ℕ) : Prop where
  lt : i < j
  push : ops[i]? = some .push
  pop : ops[j]? = some .pop
  /-- All other branches that are opened inside are closed inside. -/
  inside : Balanced ((ops.take j).drop (i + 1))

instance (ops : List Op) (i j : ℕ) : Decidable (Closes ops i j) :=
  decidable_of_iff (i < j ∧ ops[i]? = some .push ∧ ops[j]? = some .pop ∧
      Balanced ((ops.take j).drop (i + 1)))
    ⟨fun h ↦ ⟨h.1, h.2.1, h.2.2.1, h.2.2.2⟩, fun h ↦ ⟨h.lt, h.push, h.pop, h.inside⟩⟩

/-- A place in a closed branch, or at one of its ends. -/
def Enclosed (ops : List Op) (k : ℕ) : Prop := ∃ i j, i ≤ k ∧ k ≤ j ∧ Closes ops i j

theorem Closes.lt_length {ops : List Op} {i j : ℕ} (h : Closes ops i j) : j < ops.length := by
  by_contra hle
  have := h.pop
  rw [List.getElem?_eq_none (by omega)] at this
  cases this

instance (ops : List Op) (k : ℕ) : Decidable (Enclosed ops k) :=
  decidable_of_iff (∃ i ≤ k, ∃ j < ops.length, k ≤ j ∧ Closes ops i j) <| by
    constructor
    · rintro ⟨i, hi, j, -, hj, h⟩
      exact ⟨i, j, hi, hj, h⟩
    · rintro ⟨i, j, hi, hj, h⟩
      exact ⟨i, hi, j, h.lt_length, hj, h⟩

/-- What is left of a sequence without its closed branches. -/
def prune (ops : List Op) : List Op :=
  (ops.zipIdx.filter fun x ↦ ¬Enclosed ops x.2).map Prod.fst

/-! ## What follows does not matter -/

theorem closes_append_iff {u v : List Op} {i j : ℕ} (hj : j < u.length) :
    Closes (u ++ v) i j ↔ Closes u i j := by
  have hget : ∀ k, k < u.length → (u ++ v)[k]? = u[k]? := fun k hk ↦ List.getElem?_append_left hk
  have htake : (u ++ v).take j = u.take j := List.take_append_of_le_length hj.le
  constructor
  · intro h
    exact ⟨h.lt, hget i (h.lt.trans hj) ▸ h.push, hget j hj ▸ h.pop, htake ▸ h.inside⟩
  · intro h
    exact ⟨h.lt, (hget i (h.lt.trans hj)).symm ▸ h.push, (hget j hj).symm ▸ h.pop,
      htake.symm ▸ h.inside⟩

theorem prune_append {u v : List Op}
    (h : ∀ i j, i < u.length → u.length ≤ j → ¬Closes (u ++ v) i j) :
    prune (u ++ v) = prune u ++
      ((v.zipIdx u.length).filter fun x ↦ ¬Enclosed (u ++ v) x.2).map Prod.fst := by
  rw [prune, prune, List.zipIdx_append, List.filter_append, List.map_append, Nat.zero_add]
  congr 2
  refine List.filter_congr fun x hx ↦ ?_
  have hlt : x.2 < u.length := List.snd_lt_of_mem_zipIdx hx
  have hiff : Enclosed (u ++ v) x.2 ↔ Enclosed u x.2 := by
    constructor
    · rintro ⟨i, j, hi, hj, hclose⟩
      have hju : j < u.length := by
        by_contra hle
        exact h i j (by omega) (by omega) hclose
      exact ⟨i, j, hi, hj, (closes_append_iff hju).mp hclose⟩
    · rintro ⟨i, j, hi, hj, hclose⟩
      exact ⟨i, j, hi, hj, (closes_append_iff hclose.lt_length).mpr hclose⟩
  simp only [hiff]

/-! ## The two equations -/

@[simp] theorem prune_nil : prune [] = [] := rfl

theorem prune_append_singleton (ops : List Op) (op : Op) (hpop : op ≠ .pop) :
    prune (ops ++ [op]) = prune ops ++ [op] := by
  -- a branch that ends at the last place ends with a closing operation
  have hopen : ∀ i j, ops.length ≤ j → ¬Closes (ops ++ [op]) i j := by
    intro i j hj hclose
    have hlt := hclose.lt_length
    rw [List.length_append, List.length_singleton] at hlt
    have hlast := hclose.pop
    rw [show j = ops.length by omega, List.getElem?_concat_length] at hlast
    exact hpop (Option.some_inj.mp hlast)
  have hout : ¬Enclosed (ops ++ [op]) ops.length := by
    rintro ⟨i, j, -, hj, hclose⟩
    exact hopen i j hj hclose
  rw [prune_append fun i j _ hj ↦ hopen i j hj, List.zipIdx_singleton]
  simp [hout]

/-- Inside a branch one is above its ends: a nonempty proper prefix of a branch has positive
height. -/
theorem height_take_branch_pos {b : List Op} (hb : Balanced b) {m : ℕ} (hm : m ≤ b.length) :
    0 < height ((branch b).take (m + 1)) := by
  rw [branch, List.take_succ_cons, List.take_append_of_le_length hm, height_cons, height_push]
  have := hb.legal _ (List.take_prefix m b)
  omega

/-- A branch at the end of a sequence is closed by its own end only: no branch that is opened
before it is. -/
theorem not_closes_of_branch {u b : List Op} (hb : Balanced b) {i j : ℕ} (hi : i < u.length)
    (hj : u.length ≤ j) : ¬Closes (u ++ branch b) i j := by
  intro hclose
  obtain ⟨m, rfl⟩ := Nat.exists_eq_add_of_le hj
  have hlt := hclose.lt_length
  rw [List.length_append, length_branch] at hlt
  have hlast := hclose.pop
  rw [List.getElem?_append_right hj, Nat.add_sub_cancel_left] at hlast
  cases m with
  | zero => cases hlast
  | succ m =>
    -- between the two stand the rest of `u` and a part of the branch, together above their start
    have hinside : ((u ++ branch b).take (u.length + (m + 1))).drop (i + 1)
        = u.drop (i + 1) ++ (branch b).take (m + 1) := by
      rw [List.take_length_add_append, List.drop_append_of_le_length (by omega)]
    have hbal := hclose.inside
    rw [hinside] at hbal
    have hrest := hbal.legal _ (List.prefix_append (u.drop (i + 1)) _)
    have hpart := height_take_branch_pos hb (show m ≤ b.length by omega)
    have hlevel := hbal.level
    rw [height_append] at hlevel
    omega

theorem closes_branch (u : List Op) {b : List Op} (hb : Balanced b) :
    Closes (u ++ branch b) u.length (u.length + (b.length + 1)) where
  lt := by omega
  push := by
    rw [List.getElem?_append_right (le_refl _), Nat.sub_self, branch, List.getElem?_cons_zero]
  pop := by
    rw [List.getElem?_append_right (by omega), Nat.add_sub_cancel_left, branch,
      List.getElem?_cons_succ, List.getElem?_concat_length]
  inside := by
    rw [List.take_length_add_append, branch, List.take_succ_cons, List.take_left, ← List.drop_drop,
      List.drop_left, List.drop_one, List.tail_cons]
    exact hb

/-- A closed branch at the end is deleted without a trace. -/
theorem prune_append_branch (u : List Op) {b : List Op} (hb : Balanced b) :
    prune (u ++ branch b) = prune u := by
  have hnone :
      ((branch b).zipIdx u.length).filter (fun x ↦ ¬Enclosed (u ++ branch b) x.2) = [] := by
    -- all its places are between its own ends
    refine List.filter_eq_nil_iff.mpr fun x hx ↦ ?_
    have hge := List.le_snd_of_mem_zipIdx hx
    have hlt := List.snd_lt_add_of_mem_zipIdx hx
    rw [length_branch] at hlt
    have hin : Enclosed (u ++ branch b) x.2 := ⟨_, _, hge, by omega, closes_branch u hb⟩
    simp [hin]
  rw [prune_append fun i j hi hj ↦ not_closes_of_branch hb hi hj, hnone, List.map_nil,
    List.append_nil]

/-! ## Strokes -/

/-- What leads to each step with the pen down: the pruned operations before it, as long as no branch
is closed that was not open. -/
def strokes (ops : List Op) : List (List Op) :=
  (List.range ops.length).filterMap fun k ↦
    if ops[k]? = some .draw ∧ Legal (ops.take k) then some (prune (ops.take k)) else none

theorem strokes_append (u v : List Op) :
    strokes (u ++ v) = strokes u ++ (List.range v.length).filterMap fun k ↦
      if v[k]? = some .draw ∧ Legal (u ++ v.take k)
        then some (prune (u ++ v.take k)) else none := by
  rw [strokes, List.length_append, List.range_add, List.filterMap_append, List.filterMap_map]
  congr 1
  · refine List.filterMap_congr fun k hk ↦ ?_
    have hlt := List.mem_range.mp hk
    rw [List.getElem?_append_left hlt, List.take_append_of_le_length hlt.le]
  · refine List.filterMap_congr fun k _ ↦ ?_
    rw [Function.comp_apply, List.getElem?_append_right (Nat.le_add_right _ _),
      Nat.add_sub_cancel_left, List.take_length_add_append]

theorem strokes_append_draw {ops : List Op} (h : Legal ops) :
    strokes (ops ++ [.draw]) = strokes ops ++ [prune ops] := by
  rw [strokes_append]
  simp [h]

theorem strokes_append_of_ne (ops : List Op) (op : Op) (h : op ≠ .draw) :
    strokes (ops ++ [op]) = strokes ops := by
  rw [strokes_append]
  simp [h]

theorem strokes_append_pop {u : List Op} (hlevel : height u = 0) (v : List Op) :
    strokes (u ++ .pop :: v) = strokes u := by
  rw [strokes_append, List.filterMap_eq_nil_iff.mpr, List.append_nil]
  intro k _
  refine if_neg fun ⟨hdraw, hlegal⟩ ↦ ?_
  cases k with
  | zero => cases hdraw
  | succ k => exact not_legal_of_append_pop hlevel hlegal

end Op

end Lindenmayer
