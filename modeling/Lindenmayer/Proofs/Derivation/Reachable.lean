import Lindenmayer.Proofs.Derivation.Descent
import Lindenmayer.Proofs.Source.RoundTrip

/-!
# Symbols that are reached

The rules that can be used on the way from a word are those of the symbols it *reaches*: its own
ones, and with a symbol that has a rule the symbols of its replacement. These are also exactly the
symbols that its generations hold.

## Two maps, one derivation

Maps that agree on the reached symbols derive the same words. The invariant is about the word and
not about the maps: no generation holds a symbol that is not reached. So the two derivations do not
have to be followed side by side. Where a word holds reached symbols only, one pass of either map
gives the same word, and that one holds reached symbols only. Cycles and erased symbols need no
care, since the reached symbols are a set and the passes are counted.
-/

namespace Lindenmayer

namespace Rules

/-- The symbols of a word, and with each of them that has a rule the symbols it is replaced by. -/
inductive Reachable (r : Rules) (start : Word) : Char → Prop
  | start {c : Char} : c ∈ start → Reachable r start c
  | rule {c d : Char} {w : Word} : Reachable r start c → r.find? c = some w → d ∈ w →
      Reachable r start d

/-- The rules of the symbols that pass a test. -/
def restrict (r : Rules) (kept : Char → Bool) : Rules :=
  ⟨r.entries.filter fun e ↦ kept e.1, r.sorted.filter _⟩

theorem find?_restrict (r : Rules) (kept : Char → Bool) (c : Char) :
    (r.restrict kept).find? c = if kept c then r.find? c else none := by
  refine Option.ext fun w ↦ ?_
  rw [find?_eq_some_iff_mem, restrict, List.mem_filter, ← find?_eq_some_iff_mem]
  by_cases h : kept c <;> simp [h]

variable {r r' : Rules} {start w : Word}

/-! ## Generations hold reached symbols -/

theorem Reachable.image {c d : Char} (hc : r.Reachable start c) (hd : d ∈ r.image c) :
    r.Reachable start d := by
  rcases h : r.find? c with - | w
  · rw [image_of_find?_eq_none r h, List.mem_singleton] at hd
    exact hd ▸ hc
  · rw [image_of_find?_eq_some r h] at hd
    exact hc.rule h hd

theorem reachable_of_mem_replace (hw : ∀ c ∈ w, r.Reachable start c) :
    ∀ d ∈ r.replace w, r.Reachable start d := by
  intro d hd
  obtain ⟨c, hc, hdc⟩ := List.mem_flatMap.mp hd
  exact (hw c hc).image hdc

theorem reachable_of_mem_iterate (passes : ℕ) :
    ∀ c ∈ r.replace^[passes] start, r.Reachable start c := by
  induction passes with
  | zero => exact fun c hc ↦ .start hc
  | succ passes ih =>
    rw [Function.iterate_succ_apply']
    exact reachable_of_mem_replace ih

theorem Reachable.exists_mem_iterate {c : Char} (h : r.Reachable start c) :
    ∃ passes, c ∈ r.replace^[passes] start := by
  induction h with
  | start hc => exact ⟨0, hc⟩
  | @rule c d w _ hrule hd ih =>
    obtain ⟨passes, hc⟩ := ih
    refine ⟨passes + 1, ?_⟩
    rw [Function.iterate_succ_apply', replace, List.mem_flatMap]
    exact ⟨c, hc, (image_of_find?_eq_some r hrule).symm ▸ hd⟩

/-- The symbols that are reached are those of all generations. -/
theorem reachable_iff_exists_mem_expand {c : Char} :
    r.Reachable start c ↔
      ∃ (generation : Int) (w : Word), (r.expand start generation).value = .ok w ∧ c ∈ w := by
  constructor
  · intro h
    obtain ⟨passes, hc⟩ := h.exists_mem_iterate
    have hpasses : ((passes + 1 : ℕ) - 1 : Int).toNat = passes := by omega
    refine ⟨(passes + 1 : ℕ), r.replace^[passes] start, ?_, hc⟩
    rw [value_expand r (by omega), hpasses]
  · rintro ⟨generation, w, hw, hc⟩
    have hone : 1 ≤ generation := by
      by_contra hlt
      rw [expand_of_lt_one r (Int.not_le.mp hlt)] at hw
      exact absurd hw (by simp)
    rw [value_expand r hone] at hw
    exact reachable_of_mem_iterate _ c (Except.ok.inj hw ▸ hc)

/-! ## Maps that agree on them -/

theorem image_congr {c : Char} (h : r'.find? c = r.find? c) : r'.image c = r.image c := by
  rw [image, image, h]

theorem replace_congr (h : ∀ c ∈ w, r'.find? c = r.find? c) : r'.replace w = r.replace w :=
  List.flatMap_congr fun c hc ↦ image_congr (h c hc)

theorem derive_congr (h : ∀ c, r.Reachable start c → r'.find? c = r.find? c)
    (hw : ∀ c ∈ w, r.Reachable start c) (passes generation : ℕ) :
    r'.derive passes generation w = r.derive passes generation w := by
  induction passes generalizing generation w with
  | zero => rfl
  | succ passes ih =>
    rw [derive, derive, replace_congr fun c hc ↦ h c (hw c hc),
      ih (reachable_of_mem_replace hw)]

theorem expand_congr (h : ∀ c, r.Reachable start c → r'.find? c = r.find? c)
    (generation : Int) : r'.expand start generation = r.expand start generation := by
  rw [expand, expand, derive_congr h fun _ hc ↦ .start hc]

/-- **Only the rules of reached symbols matter.** The reached symbols are those that some generation
holds. Two maps that give each of them the same replacement, or none, lead to the same words and the
same errors, with the same record. So no generation changes when a rule is added for a symbol that
is not reached, or its rule is replaced, or rules of such symbols are taken away. -/
theorem expand_eq_of_reachable (r : Rules) (start : Word) :
    (∀ c, r.Reachable start c ↔
      ∃ (generation : Int) (w : Word), (r.expand start generation).value = .ok w ∧ c ∈ w) ∧
    (∀ r' : Rules, (∀ c, r.Reachable start c → r'.find? c = r.find? c) →
      ∀ generation, r'.expand start generation = r.expand start generation) ∧
    (∀ c w, ¬r.Reachable start c →
      ∀ generation, (r.insert c w).expand start generation = r.expand start generation) ∧
    ∀ kept : Char → Bool, (∀ c, r.Reachable start c → kept c = true) →
      ∀ generation, (r.restrict kept).expand start generation = r.expand start generation := by
  refine ⟨fun c ↦ reachable_iff_exists_mem_expand, fun r' h ↦ expand_congr h, ?_, ?_⟩
  · intro c w hc
    refine expand_congr fun d hd ↦ ?_
    have hne : d ≠ c := fun heq ↦ hc (heq ▸ hd)
    rw [find?_insert, if_neg hne]
  · intro kept hkept
    refine expand_congr fun c hc ↦ ?_
    rw [find?_restrict, if_pos (hkept c hc)]

/-- A cycle and an erased symbol are reached from one letter; a third rule is not, and may be
replaced or taken away. -/
theorem expand_eq_of_reachable_cycle :
    let r := ofList [('é', "bx".toList), ('b', "éb".toList), ('x', []), ('y', "éy".toList)]
    let r' := ofList [('é', "bx".toList), ('b', "éb".toList), ('x', []), ('z', "b".toList)]
    (∀ c, r.Reachable ['é'] c → r'.find? c = r.find? c) ∧ ¬r.Reachable ['é'] 'y' ∧
      (r.expand ['é'] 4).value = .ok "bxéb".toList ∧
      (∀ generation, r'.expand ['é'] generation = r.expand ['é'] generation) ∧
      (∀ generation, (r.insert 'y' []).expand ['é'] generation = r.expand ['é'] generation) ∧
      ∀ generation,
        (r.restrict (· != 'y')).expand ['é'] generation = r.expand ['é'] generation := by
  intro r r'
  have hreach : ∀ c, r.Reachable ['é'] c → c ∈ "ébx".toList := by
    intro c hc
    induction hc with
    | start hc => exact List.mem_singleton.mp hc ▸ by decide
    | @rule c d w _ hrule hd ih =>
      have hclosed : r.replace "ébx".toList ⊆ "ébx".toList := by decide
      exact hclosed (List.mem_flatMap.mpr ⟨c, ih, image_of_find?_eq_some r hrule ▸ hd⟩)
  have hmap : "ébx".toList.map r'.find? = "ébx".toList.map r.find? := by decide
  have hagree : ∀ c, r.Reachable ['é'] c → r'.find? c = r.find? c :=
    fun c hc ↦ List.map_inj_left.mp hmap c (hreach c hc)
  have hy : ¬r.Reachable ['é'] 'y' := fun hy ↦ absurd (hreach 'y' hy) (by decide)
  have hkept : ∀ c, r.Reachable ['é'] c → (c != 'y') = true :=
    fun c hc ↦ bne_iff_ne.mpr fun heq ↦ hy (heq ▸ hc)
  obtain ⟨-, hmaps, hinsert, hrestrict⟩ := r.expand_eq_of_reachable ['é']
  exact ⟨hagree, hy, by decide, hmaps r' hagree, hinsert 'y' [] hy, hrestrict _ hkept⟩

end Rules

end Lindenmayer
