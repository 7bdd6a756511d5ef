import Lindenmayer.Proofs.Derivation.Descent
import Lindenmayer.Proofs.Source.RoundTrip
import Mathlib.Algebra.Order.BigOperators.Group.List
import Mathlib.Order.Monotone.Basic

/-!
# Words that never shrink

A rule map is *propagating* if it erases no symbol. Under such a map no word is longer than the one
behind it, and these are the only maps of which this is true for all words.

Lengths are counted in symbols. In bytes the law fails for propagating maps too, since a symbol can
be replaced by one that is spelled with fewer bytes.

A grammar text has no way to write an empty replacement or an empty start, so what is read from a
text is propagating and has no empty generation.
-/

namespace Lindenmayer

namespace Rules

/-- No symbol is erased. -/
def Propagating (r : Rules) : Prop :=
  ∀ c w, r.find? c = some w → w ≠ []

variable {r : Rules}

theorem Propagating.one_le_length_image (hr : r.Propagating) (c : Char) :
    1 ≤ (r.image c).length := by
  rcases h : r.find? c with - | w
  · rw [image_of_find?_eq_none r h, List.length_singleton]
  · rw [image_of_find?_eq_some r h]
    exact List.length_pos_of_ne_nil (hr c w h)

theorem Propagating.length_le_length_replace (hr : r.Propagating) (w : Word) :
    w.length ≤ (r.replace w).length := by
  calc w.length = (w.map fun c ↦ (r.image c).length).length := (List.length_map _).symm
    _ ≤ (w.map fun c ↦ (r.image c).length).sum := by
      refine List.length_le_sum_of_one_le _ fun n hn ↦ ?_
      obtain ⟨c, -, rfl⟩ := List.mem_map.mp hn
      exact hr.one_le_length_image c
    _ = (r.replace w).length := List.length_flatMap.symm

theorem Propagating.monotone_length (hr : r.Propagating) (start : Word) :
    Monotone fun passes ↦ (r.replace^[passes] start).length := by
  refine monotone_nat_of_le_succ fun passes ↦ ?_
  rw [Function.iterate_succ_apply']
  exact hr.length_le_length_replace _

/-- No generation of a word is longer than a later one. -/
def NeverShrinks (r : Rules) (start : Word) : Prop :=
  ∀ g g' : Int, 1 ≤ g → g ≤ g' → ∃ u v, (r.expand start g).value = .ok u ∧
    (r.expand start g').value = .ok v ∧ u.length ≤ v.length

theorem Propagating.neverShrinks (hr : r.Propagating) (start : Word) : r.NeverShrinks start := by
  intro g g' hg hle
  refine ⟨_, _, r.value_expand hg, r.value_expand (hg.trans hle), hr.monotone_length start ?_⟩
  exact Int.toNat_le_toNat (Int.sub_le_sub_right hle 1)

/-- An erased symbol is a word that shrinks. -/
theorem propagating_iff_neverShrinks : r.Propagating ↔ ∀ start, r.NeverShrinks start := by
  refine ⟨fun hr ↦ hr.neverShrinks, fun h c w hc hw ↦ ?_⟩
  obtain ⟨u, v, hu, hv, hle⟩ := h [c] 1 2 (by decide) (by decide)
  have hreplace : r.replace [c] = [] := by
    rw [replace, List.flatMap_singleton, image_of_find?_eq_some r hc, hw]
  rw [value_expand r (by decide)] at hu hv
  obtain rfl : [c] = u := Except.ok.inj hu
  obtain rfl : r.replace [c] = v := Except.ok.inj hv
  rw [hreplace] at hle
  exact absurd hle (Nat.not_succ_le_zero 0)

end Rules

namespace Grammar

theorem WellFormed.propagating {g : Grammar} (hg : g.WellFormed) : g.rules.Propagating :=
  fun c w hcw ↦ (hg.word c w hcw).1

/-- **Expansion never shrinks.** The rule maps under which no generation of any word is longer than
a later one are those that erase no symbol. Every grammar that is read from a text has such a map,
and none of its generations is empty. -/
theorem length_expand_mono :
    (∀ r : Rules, r.Propagating ↔ ∀ start, r.NeverShrinks start) ∧
    ∀ text g, (ofText text).value = .ok g → ∀ n n' : Int, 1 ≤ n → n ≤ n' →
      ∃ u v, (g.expand n).value = .ok u ∧ (g.expand n').value = .ok v ∧
        1 ≤ u.length ∧ u.length ≤ v.length := by
  refine ⟨fun _ ↦ Rules.propagating_iff_neverShrinks, fun text g hg n n' hn hle ↦ ?_⟩
  have hwell := wellFormed_of_value_ofText hg
  have hstart : 1 ≤ g.start.length := List.length_pos_of_ne_nil hwell.start.1
  -- the start is the first generation
  obtain ⟨s, u, hs, hu, hsu⟩ := hwell.propagating.neverShrinks g.start 1 n le_rfl hn
  obtain ⟨u', v, hu', hv, huv⟩ := hwell.propagating.neverShrinks g.start n n' hn hle
  obtain rfl : g.start = s := Except.ok.inj ((g.rules.value_expand le_rfl).symm.trans hs)
  obtain rfl : u = u' := Except.ok.inj (hu.symm.trans hu')
  exact ⟨u, v, hu, hv, hstart.trans hsu, huv⟩

/-- Of two rules for a symbol, between blanks that are no spaces, the first one counts. It keeps the
number of symbols and halves the number of bytes. -/
theorem length_expand_mono_fewer_bytes :
    let text := "1\u00a02 é a é FF\u2028éé".toList
    let g : Grammar := ⟨1, Rules.ofList [('é', ['a'])], ['é', 'é']⟩
    (ofText text).value = .ok g ∧ (1 : Int) ≤ 1 ∧ (1 : Int) ≤ 2 ∧
      (∃ u v, (g.expand 1).value = .ok u ∧ (g.expand 2).value = .ok v ∧
        1 ≤ u.length ∧ u.length ≤ v.length) ∧
      (g.expand 2).value = .ok ['a', 'a'] ∧
      Text.utf8Length ['a', 'a'] < Text.utf8Length g.start := by
  intro text g
  have hg : (ofText text).value = .ok g := by decide +kernel
  exact ⟨hg, by decide, by decide,
    length_expand_mono.2 text g hg 1 2 (by decide) (by decide), by decide, by decide⟩

end Grammar

end Lindenmayer
