import Lindenmayer.Proofs.Derivation.Descent
import Lindenmayer.Proofs.Walk.Outcome
import Mathlib.Algebra.BigOperators.Group.Finset.Basic

/-!
# How words grow

The number of times each symbol occurs in a generation follows from the numbers in the generation
before it, with no look at the word:

```text
N₁(c)   = occurrences of c in the start
Nₙ₊₁(c) = (Nₙ(c), if c has no rule) + ∑ Nₙ(d) · (occurrences of c in w)    over the rules d → w
```

Whatever is added up symbol by symbol is known with these numbers: the length of a word, its length
in bytes, and what a turtle counts on its way along the word. So the size of a generation can be
told before it is derived.

## One symbol at a time

The recurrence is linear, and a pass is a homomorphism. Both sides of it are therefore determined by
words of one symbol, where at most one rule counts. That rule is found by a look-up in the map,
while the recurrence runs through all of its entries; `sum_entries_eq_elim` is where the two meet.
-/

namespace Lindenmayer

namespace Rules

variable (r : Rules) (start : Word)

/-! ## The recurrence -/

/-- The number of occurrences of each symbol after the given number of passes, without the words. -/
def population (r : Rules) (start : Word) : (passes : ℕ) → Char → ℕ
  | 0, c => start.count c
  | passes + 1, c =>
    (if r.contains c then 0 else r.population start passes c) +
      (r.entries.map fun e ↦ r.population start passes e.1 * e.2.count c).sum

/-- The symbols that a generation can hold: those of the start and those of the replacements. -/
def alphabet (r : Rules) (start : Word) : Finset Char :=
  (start ++ r.entries.flatMap Prod.snd).toFinset

theorem sum_entries_eq_elim (d : Char) (f : Word → ℕ) :
    (r.entries.map fun e ↦ [d].count e.1 * f e.2).sum = (r.find? d).elim 0 f := by
  obtain ⟨l, hl⟩ := r
  change (l.map fun e ↦ [d].count e.1 * f e.2).sum = (l.lookup d).elim 0 f
  induction l with
  | nil => rfl
  | cons e l ih =>
    obtain ⟨he, hl⟩ := List.pairwise_cons.mp hl
    rw [List.map_cons, List.sum_cons, List.lookup_cons]
    by_cases hd : d = e.1
    · -- all rules behind this one are for greater symbols
      have hrest : (l.map fun e ↦ [d].count e.1 * f e.2).sum = 0 := by
        refine List.sum_eq_zero fun x hx ↦ ?_
        obtain ⟨p, hp, rfl⟩ := List.mem_map.mp hx
        have hne : d ≠ p.1 := hd ▸ Char.ne_of_lt (he p hp)
        rw [List.count_singleton, beq_false_of_ne hne]
        exact Nat.zero_mul _
      rw [hrest, hd, List.count_singleton, beq_self_eq_true]
      simp
    · rw [ih hl, List.count_singleton, beq_false_of_ne hd]
      simp

theorem count_image (c d : Char) :
    (r.image d).count c = (if r.contains c then 0 else [d].count c) +
      (r.entries.map fun e ↦ [d].count e.1 * e.2.count c).sum := by
  rw [sum_entries_eq_elim r d fun w ↦ w.count c, contains]
  by_cases hc : c = d
  · subst hc
    rcases h : r.find? c with - | w
    · simp [image_of_find?_eq_none r h]
    · simp [image_of_find?_eq_some r h]
  · have hzero : [d].count c = 0 := List.count_eq_zero.mpr (by simpa using hc)
    rcases h : r.find? d with - | w
    · simp [image_of_find?_eq_none r h, hzero]
    · simp [image_of_find?_eq_some r h, hzero]

/-- **One pass.** Symbols without a rule stay as many as they were, and each symbol with a rule adds
what its replacement holds. -/
theorem count_replace (w : Word) (c : Char) :
    (r.replace w).count c = (if r.contains c then 0 else w.count c) +
      (r.entries.map fun e ↦ w.count e.1 * e.2.count c).sum := by
  induction w with
  | nil => simp [replace]
  | cons d w ih =>
    have hcount : ∀ x : Char, (d :: w).count x = [d].count x + w.count x := by
      intro x
      rw [← List.singleton_append, List.count_append]
    have hsum : (r.entries.map fun e ↦ (d :: w).count e.1 * e.2.count c).sum =
        (r.entries.map fun e ↦ [d].count e.1 * e.2.count c).sum +
          (r.entries.map fun e ↦ w.count e.1 * e.2.count c).sum := by
      rw [← List.sum_map_add]
      simp only [hcount, Nat.add_mul]
    have hreplace : r.replace (d :: w) = r.image d ++ r.replace w := List.flatMap_cons
    rw [hreplace, List.count_append, count_image, ih, hsum, hcount]
    split <;> omega

theorem count_iterate_replace (passes : ℕ) (c : Char) :
    (r.replace^[passes] start).count c = r.population start passes c := by
  induction passes generalizing c with
  | zero => rfl
  | succ passes ih =>
    rw [Function.iterate_succ_apply', count_replace, population]
    simp only [ih]

theorem population_eq_zero {c : Char} (h : c ∉ r.alphabet start) (passes : ℕ) :
    r.population start passes c = 0 := by
  rw [alphabet, List.mem_toFinset, List.mem_append, not_or, List.mem_flatMap] at h
  obtain ⟨hstart, hrules⟩ := h
  induction passes with
  | zero => exact List.count_eq_zero.mpr hstart
  | succ passes ih =>
    have hsum : (r.entries.map fun e ↦ r.population start passes e.1 * e.2.count c).sum = 0 := by
      refine List.sum_eq_zero fun x hx ↦ ?_
      obtain ⟨e, he, rfl⟩ := List.mem_map.mp hx
      rw [List.count_eq_zero.mpr fun hc ↦ hrules ⟨e, he, hc⟩, Nat.mul_zero]
    rw [population, hsum, ih, ite_self]

/-! ## Sums along a word -/

theorem sum_map_iterate_replace (passes : ℕ) (f : Char → ℕ) :
    ((r.replace^[passes] start).map f).sum =
      ∑ c ∈ r.alphabet start, r.population start passes c * f c := by
  have hsub : (r.replace^[passes] start).toFinset ⊆ r.alphabet start := by
    intro c hc
    by_contra hnot
    have hzero := r.population_eq_zero start hnot passes
    rw [← count_iterate_replace, List.count_eq_zero, ← List.mem_toFinset] at hzero
    exact hzero hc
  rw [Finset.sum_list_map_count]
  simp only [count_iterate_replace, Nat.nsmul_eq_mul]
  refine Finset.sum_subset hsub fun c _ hc ↦ ?_
  rw [List.mem_toFinset, ← List.count_eq_zero, count_iterate_replace] at hc
  rw [hc, Nat.zero_mul]

theorem length_iterate_replace (passes : ℕ) :
    (r.replace^[passes] start).length = ∑ c ∈ r.alphabet start, r.population start passes c := by
  have h := r.sum_map_iterate_replace start passes fun _ ↦ 1
  rw [List.map_const', List.sum_replicate, Nat.nsmul_eq_mul, Nat.mul_one] at h
  simpa only [Nat.mul_one] using h

theorem utf8Length_eq_sum (w : List Char) :
    Text.utf8Length w = (w.map Char.utf8Size).sum := by
  rw [Text.utf8Length, List.sum, List.foldr_map]

theorem count_map_iterate_replace (l : Lexicon) (op : Op) (passes : ℕ) :
    ((r.replace^[passes] start).map l).count op =
      ∑ c ∈ r.alphabet start with l c = op, r.population start passes c := by
  have hcount : ∀ w : Word,
      (w.map l).count op = (w.map fun c ↦ if l c = op then 1 else 0).sum := by
    intro w
    induction w with
    | nil => rfl
    | cons c w ih =>
      rw [List.map_cons, List.count_cons, ih, List.map_cons, List.sum_cons, Nat.add_comm]
      simp only [beq_iff_eq]
  rw [hcount, sum_map_iterate_replace, Finset.sum_filter]
  refine Finset.sum_congr rfl fun c _ ↦ ?_
  rw [mul_ite, Nat.mul_one, Nat.mul_zero]

/-! ## Expansions -/

theorem log_derive (passes generation : ℕ) (w : Word) :
    (r.derive passes generation w).log = (List.range passes).map fun k ↦
      .derived (generation + k + 1) (Text.utf8Length (r.replace^[k + 1] w)) := by
  induction passes generalizing generation w with
  | zero => rfl
  | succ passes ih =>
    rw [derive, List.range_succ_eq_map, List.map_cons, List.map_map]
    refine List.cons_eq_cons.mpr ⟨rfl, (ih (generation + 1) _).trans ?_⟩
    refine List.map_congr_left fun k _ ↦ ?_
    rw [Function.comp_apply, ← Function.iterate_succ_apply, Nat.succ_eq_add_one,
      Nat.add_right_comm generation 1 k, Nat.add_assoc generation k 1]

theorem log_expand {generation : Int} (h : 1 ≤ generation) :
    (r.expand start generation).log = (List.range (generation - 1).toNat).map fun k ↦
      .derived (k + 2) (Text.utf8Length (r.replace^[k + 1] start)) := by
  rw [expand, if_neg (Int.not_lt.mpr h)]
  refine (r.log_derive _ 1 start).trans (List.map_congr_left fun k _ ↦ ?_)
  rw [Nat.add_comm 1 k]

/-- **The sizes of all generations.** From the first one on, the symbols of a generation are as many
as the recurrence says, and none is outside of the alphabet. The length of its word, the lengths in
bytes that are recorded on the way to it, and what a turtle reports at the end of a walk along it
are sums of these numbers. -/
theorem expand_population (r : Rules) (start : Word) {generation : Int} (h : 1 ≤ generation) :
    let number := r.population start (generation - 1).toNat
    ∃ word, (r.expand start generation).value = .ok word ∧
      (∀ c, word.count c = number c) ∧
      (∀ c, c ∉ r.alphabet start → number c = 0) ∧
      word.length = ∑ c ∈ r.alphabet start, number c ∧
      Text.utf8Length word = ∑ c ∈ r.alphabet start, number c * c.utf8Size ∧
      (r.expand start generation).log = (List.range (generation - 1).toNat).map (fun k ↦
        .derived (k + 2) (∑ c ∈ r.alphabet start, r.population start (k + 1) c * c.utf8Size)) ∧
      ∀ (σ : Type) (t : Turtle) (sink : Sink σ) (received : σ) (report : Report),
        (t.walk sink received word).result = .ok report →
          report.segments = ∑ c ∈ r.alphabet start with t.lexicon c = .draw, number c ∧
          report.moves = ∑ c ∈ r.alphabet start with t.lexicon c = .move, number c := by
  intro number
  have hbytes : ∀ passes, Text.utf8Length (r.replace^[passes] start) =
      ∑ c ∈ r.alphabet start, r.population start passes c * c.utf8Size := by
    intro passes
    rw [utf8Length_eq_sum, sum_map_iterate_replace]
  refine ⟨_, r.value_expand h, r.count_iterate_replace start _,
    fun c hc ↦ r.population_eq_zero start hc _, r.length_iterate_replace start _, hbytes _, ?_, ?_⟩
  · rw [log_expand r start h]
    simp only [hbytes]
  · intro σ t sink received report hreport
    obtain ⟨s, drawn, hreach, rfl⟩ := Turtle.exists_reaches_of_walk hreport
    have htally := hreach.tally
    exact ⟨htally.segments.trans (r.count_map_iterate_replace start t.lexicon .draw _),
      htally.moves.trans (r.count_map_iterate_replace start t.lexicon .move _)⟩

/-- Two rules that call each other, one of them for itself too, and a symbol of two bytes that is
erased: the fourth generation is known from the recurrence alone. -/
theorem expand_population_erasing :
    let r := ofList [('X', "F[+X]éY".toList), ('Y', "fYX".toList), ('é', [])]
    let t : Turtle := ⟨⟨4⟩, Turtle.defaultStep, .conventional⟩
    let word := "F[+F[+F[+X]éY]fYX]ffYXF[+X]éY".toList
    (1 : Int) ≤ 4 ∧ (r.expand "Xé".toList 4).value = .ok word ∧ word.count 'é' = 2 ∧
      word.length = 29 ∧ Text.utf8Length word = 31 ∧
      ∃ report, (t.walk .discard () word).result = .ok report ∧
        report.segments = 4 ∧ report.moves = 3 := by
  intro r t word
  have hword : (r.expand "Xé".toList 4).value = .ok word := rfl
  obtain ⟨word', hvalue, hcount, -, hlength, hbytes, -, hwalk⟩ :=
    r.expand_population "Xé".toList (show (1 : Int) ≤ 4 by decide)
  rw [hword] at hvalue
  cases hvalue
  have hbal : Op.Balanced (t.operations word) := by decide
  obtain ⟨s, drawn, hreach⟩ := t.exists_reaches_of_legal (by decide) hbal.legal
  have hreport := hwalk _ t .discard () _ hreach.walk_discard
  refine ⟨by decide, hword, ?_, ?_, ?_, _, hreach.walk_discard, ?_, ?_⟩
  · rw [hcount]
    decide
  · rw [hlength]
    decide
  · rw [hbytes]
    decide
  · rw [hreport.1]
    decide
  · rw [hreport.2]
    decide

end Rules

end Lindenmayer
