import Lindenmayer.Derivation
import Mathlib.Data.Int.Init
import Mathlib.Data.Nat.Notation
import Mathlib.Logic.Function.Iterate

/-!
# Derivation by descent

A word is derived breadth first: each pass rewrites all of it. Its symbols can also be followed one
at a time, depth first, each one down to the word it ends up as,

```text
descend 0 c = c        descend (n + 1) c = descend n d₁ ⋯ descend n dₖ    where c → d₁ ⋯ dₖ
```

and the derived word is what its symbols end up as, one after another.

## Which end of the passes

A pass is a homomorphism of words, so any number of passes is one, and a word is derived symbol by
symbol. The recursion of `Rules.derive` takes its first pass off, which rewrites the word one starts
from; the recursion of `descend` takes off the first pass of a single symbol. Both therefore meet at
the image of a symbol, and no fact about the last pass is needed.
-/

namespace Lindenmayer

namespace Rules

variable (r : Rules)

/-! ## Passes are homomorphisms -/

@[simp] theorem replace_append (u v : Word) : r.replace (u ++ v) = r.replace u ++ r.replace v :=
  List.flatMap_append

theorem iterate_replace_append (n : ℕ) (u v : Word) :
    r.replace^[n] (u ++ v) = r.replace^[n] u ++ r.replace^[n] v := by
  -- over all words: the first pass rewrites both before the rest of them see them
  induction n generalizing u v with
  | zero => rfl
  | succ n ih =>
    rw [Function.iterate_succ_apply, Function.iterate_succ_apply, Function.iterate_succ_apply,
      replace_append, ih]

theorem value_derive (passes generation : ℕ) (w : Word) :
    (r.derive passes generation w).value = r.replace^[passes] w := by
  induction passes generalizing generation w with
  | zero => rfl
  | succ passes ih => rw [derive, ih, Function.iterate_succ_apply]

/-! ## Expansion -/

theorem expand_of_lt_one {start : Word} {generation : Int} (h : generation < 1) :
    r.expand start generation = ⟨.error (.generationCount generation), []⟩ := by
  rw [expand, if_pos h]

theorem value_expand {start : Word} {generation : Int} (h : 1 ≤ generation) :
    (r.expand start generation).value = .ok (r.replace^[(generation - 1).toNat] start) := by
  rw [expand, if_neg (Int.not_lt.mpr h)]
  exact congrArg Except.ok (value_derive r _ 1 start)

/-! ## Descent -/

theorem image_of_find?_eq_none {c : Char} (h : r.find? c = none) : r.image c = [c] := by
  rw [image, h, Option.getD_none]

theorem image_of_find?_eq_some {c : Char} {w : Word} (h : r.find? c = some w) :
    r.image c = w := by
  rw [image, h, Option.getD_some]

/-- The word a symbol ends up as after the given number of passes, which is the one it has in the
generation of the next number. -/
def descend : (passes : ℕ) → Char → Word
  | 0, c => [c]
  | passes + 1, c =>
    match r.find? c with
    | none => [c]
    | some w => w.flatMap (descend passes)

theorem descend_of_find?_eq_none {c : Char} (h : r.find? c = none) (passes : ℕ) :
    r.descend passes c = [c] := by
  cases passes with
  | zero => rfl
  | succ passes => rw [descend, h]

/-- One step down leads to the image of a symbol, whether or not it has a rule: a symbol without one
is its own image, and stays what it is. -/
theorem descend_succ (passes : ℕ) (c : Char) :
    r.descend (passes + 1) c = (r.image c).flatMap (r.descend passes) := by
  cases h : r.find? c with
  | none =>
    rw [image_of_find?_eq_none r h, List.flatMap_singleton, descend_of_find?_eq_none r h,
      descend_of_find?_eq_none r h]
  | some w => rw [image_of_find?_eq_some r h, descend, h]

theorem iterate_replace_eq_flatMap_descend (passes : ℕ) (w : Word) :
    r.replace^[passes] w = w.flatMap (r.descend passes) := by
  -- the hypothesis is used at the word behind the first pass
  induction passes generalizing w with
  | zero =>
    have hid : w.flatMap (r.descend 0) = w.flatMap fun c ↦ [c] := rfl
    rw [Function.iterate_zero_apply, hid, List.flatMap_singleton']
  | succ passes ih =>
    calc r.replace^[passes + 1] w = r.replace^[passes] (r.replace w) :=
        Function.iterate_succ_apply _ _ _
      _ = (w.flatMap r.image).flatMap (r.descend passes) := by rw [ih, replace]
      _ = w.flatMap fun c ↦ (r.image c).flatMap (r.descend passes) := List.flatMap_assoc
      _ = w.flatMap (r.descend (passes + 1)) := by
        rw [← funext (descend_succ r passes)]

/-- **Passes and descent agree.** An expansion is refused, without a record, exactly before the
first generation. From there on it is the word that the symbols one starts from end up as, in
their order, and so a homomorphism of words. -/
theorem expand_eq_flatMap_descend (start : Word) (generation : Int) :
    ((r.expand start generation).value = .error (.generationCount generation) ↔ generation < 1) ∧
      (generation < 1 → (r.expand start generation).log = []) ∧
      (1 ≤ generation → (r.expand start generation).value
        = .ok (start.flatMap (r.descend (generation - 1).toNat))) ∧
      ∀ u v : Word, 1 ≤ generation → ∃ x y : Word,
        (r.expand u generation).value = .ok x ∧ (r.expand v generation).value = .ok y ∧
          (r.expand (u ++ v) generation).value = .ok (x ++ y) := by
  refine ⟨⟨fun h ↦ ?_, fun h ↦ ?_⟩, fun h ↦ ?_, fun h ↦ ?_, fun u v h ↦ ?_⟩
  · by_contra hlt
    rw [value_expand r (Int.not_lt.mp hlt)] at h
    exact absurd h (by simp)
  · rw [expand_of_lt_one r h]
  · rw [expand_of_lt_one r h]
  · rw [value_expand r h, iterate_replace_eq_flatMap_descend]
  · exact ⟨_, _, value_expand r h, value_expand r h,
      by rw [value_expand r h, iterate_replace_append]⟩

example : (ofList [('X', "X+YF+".toList), ('Y', "-FX-Y".toList)]).descend 2 'X'
    = "X+YF++-FX-YF+".toList := by decide

end Rules

end Lindenmayer
