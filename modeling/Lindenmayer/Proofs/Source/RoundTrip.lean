import Lindenmayer.Proofs.Source.Reading
import Lindenmayer.Proofs.Source.Token
import Mathlib.Data.List.Nodup
import Mathlib.Data.List.Perm.Subperm

/-!
# Grammars as texts

The grammars that texts hold are the well-formed ones, and each of them is held by many texts: its
rules may be listed in any order, and the blanks between the tokens are free. All of these texts are
read as the grammar itself, and nothing is recorded.

No token of a text can be taken for another one, because the reader knows each by its place: a
symbol may be a digit or a sign, and a word may be a numeral. A well-formed grammar always has few
enough rules to be counted in 64 bits, since there are few enough characters.
-/

namespace Lindenmayer

open Text (tokens natural isBlank Numeral64 IsToken AllBlank KeepsApart spell)

/-! ## Rules in any order -/

namespace Rules

variable {r : Rules} {pairs : List (Char × Word)}

theorem nodup_symbols (r : Rules) : (r.entries.map Prod.fst).Nodup :=
  List.pairwise_map.mpr (r.sorted.imp Char.ne_of_lt)

theorem size_le (r : Rules) : r.size ≤ 0x110000 := by
  have hnodup : (r.entries.map fun p ↦ p.1.toNat).Nodup :=
    List.pairwise_map.mpr (r.sorted.imp fun h heq ↦ Char.ne_of_lt h (Char.toNat_inj.mp heq))
  have hsub : (r.entries.map fun p ↦ p.1.toNat) ⊆ List.range 0x110000 := by
    intro n hn
    obtain ⟨p, -, rfl⟩ := List.mem_map.mp hn
    have hvalid := p.1.valid
    simp only [UInt32.isValidChar, Nat.isValidChar] at hvalid
    exact List.mem_range.mpr (by rw [Char.toNat]; omega)
  have hle := (hnodup.subperm hsub).length_le
  rwa [List.length_map, List.length_range] at hle

theorem lookup_eq_some_iff_mem (h : (pairs.map Prod.fst).Nodup) {c : Char} {w : Word} :
    pairs.lookup c = some w ↔ (c, w) ∈ pairs := by
  rw [List.lookup_eq_some_iff]
  constructor
  · rintro ⟨before, behind, rfl, -⟩
    exact List.mem_append_right _ List.mem_cons_self
  · intro hmem
    obtain ⟨before, behind, rfl⟩ := List.append_of_mem hmem
    refine ⟨before, behind, rfl, fun p hp ↦ bne_iff_ne.mpr fun heq ↦ ?_⟩
    rw [List.map_append, List.map_cons, List.nodup_append] at h
    exact h.2.2 _ (List.mem_map_of_mem hp) _ List.mem_cons_self heq.symm

theorem find?_eq_some_iff_mem {c : Char} {w : Word} : r.find? c = some w ↔ (c, w) ∈ r.entries :=
  lookup_eq_some_iff_mem r.nodup_symbols

theorem addAll_perm (h : pairs.Perm r.entries) : empty.addAll pairs = r := by
  refine ext_find? fun c ↦ Option.ext fun w ↦ ?_
  have hnodup : (pairs.map Prod.fst).Nodup := (h.map _).nodup_iff.mpr r.nodup_symbols
  rw [find?_addAll_empty, lookup_eq_some_iff_mem hnodup, find?_eq_some_iff_mem]
  exact h.mem_iff

end Rules

namespace Grammar

theorem repeats_eq_nil {pairs : List (Char × Word)} (h : (pairs.map Prod.fst).Nodup) (number : ℕ)
    {rules : Rules} (hnew : ∀ p ∈ pairs, rules.find? p.1 = none) :
    repeats number rules pairs = [] := by
  induction pairs generalizing number rules with
  | nil => rfl
  | cons p pairs ih =>
    obtain ⟨hp, hpairs⟩ := List.nodup_cons.mp h
    obtain ⟨hpnew, hnew⟩ := List.forall_mem_cons.mp hnew
    rw [repeats, Rules.contains, hpnew, ih hpairs]
    · rfl
    · intro q hq
      have hne : q.1 ≠ p.1 := fun heq ↦ hp (heq ▸ List.mem_map_of_mem hq)
      rw [Rules.find?_insertNew, if_neg hne, hnew q hq]

/-! ## Well-formed grammars -/

/-- A grammar that can be written as a text. -/
structure WellFormed (g : Grammar) : Prop where
  one_le_directions : 1 ≤ g.directions.toNat
  directions_lt : g.directions.toNat < 2 ^ 63
  symbol : ∀ c w, g.rule? c = some w → isBlank c = false
  word : ∀ c w, g.rule? c = some w → IsToken w
  start : IsToken g.start

/-- The tokens of a grammar with its rules listed in the given order. -/
def sourceTokens (g : Grammar) (rules : List (Char × Word)) : List Token :=
  natural g.directions.toNat :: natural rules.length :: (ruleTokens rules ++ [g.start])

theorem wellFormed_of_value_ofText {text : List Char} {g : Grammar}
    (h : (ofText text).value = .ok g) : g.WellFormed := by
  obtain ⟨r, hr⟩ := holds_of_value_ofTokens h
  have htoken : ∀ {k : ℕ} {t : Token}, (tokens text)[k]? = some t → IsToken t :=
    fun ht ↦ Text.isToken_of_mem_tokens (List.mem_of_getElem? ht)
  obtain ⟨t, -, ht, hpos⟩ := hr.counts.directions
  refine ⟨hpos, Int.ofNat_lt.mp ht.2.2, fun c w hcw ↦ ?_, fun c w hcw ↦ ?_, htoken hr.start⟩
  · obtain ⟨k, -, hc, -, -⟩ := (hr.rules c w).mp hcw
    exact (htoken hc).2 c List.mem_cons_self
  · obtain ⟨k, -, -, hw, -⟩ := (hr.rules c w).mp hcw
    exact htoken hw

/-- The tokens of a grammar are read as the grammar, and nothing is recorded. -/
theorem ofTokens_sourceTokens {g : Grammar} (hg : g.WellFormed) {rules : List (Char × Word)}
    (hrules : rules.Perm g.rules.entries) : ofTokens (g.sourceTokens rules) = ⟨.ok g, []⟩ := by
  have hlength : rules.length < 2 ^ 63 := by
    have hle := g.rules.size_le
    rw [Rules.size, ← hrules.length_eq] at hle
    omega
  have hnodup : (rules.map Prod.fst).Nodup := (hrules.map _).nodup_iff.mpr g.rules.nodup_symbols
  rw [sourceTokens, ofTokens_of_complete rules (Text.numeral64_natural hg.directions_lt)
    hg.one_le_directions (Text.numeral64_natural hlength), Rules.addAll_perm hrules,
    repeats_eq_nil hnodup 1 fun p _ ↦ Rules.find?_empty p.1, UInt64.ofNat_toNat]
  rfl

theorem WellFormed.isToken {g : Grammar} (hg : g.WellFormed) {rules : List (Char × Word)}
    (hrules : rules.Perm g.rules.entries) {t : Token} (ht : t ∈ g.sourceTokens rules) :
    IsToken t := by
  have hnatural : ∀ n, IsToken (natural n) := fun n ↦
    ⟨Nat.toDigits_ne_nil, fun _ hc ↦ Text.isBlank_of_isDigit (Text.isDigit_of_mem_natural hc)⟩
  have hrule : ∀ p ∈ rules, g.rule? p.1 = some p.2 := fun p hp ↦
    Rules.find?_eq_some_iff_mem.mpr (hrules.mem_iff.mp hp)
  rw [sourceTokens, List.mem_cons, List.mem_cons, List.mem_append, List.mem_singleton, ruleTokens,
    List.mem_flatMap] at ht
  rcases ht with rfl | rfl | ⟨p, hp, ht⟩ | rfl
  · exact hnatural _
  · exact hnatural _
  · rw [List.mem_cons, List.mem_singleton] at ht
    rcases ht with rfl | rfl
    · exact ⟨List.cons_ne_nil _ _, List.forall_mem_singleton.mpr (hg.symbol _ _ (hrule p hp))⟩
    · exact hg.word _ _ (hrule p hp)
  · exact hg.start

/-- **Texts and grammars.** What is read from a text is a well-formed grammar. Conversely, a text of
the tokens of a well-formed grammar, with its rules in any order and any blanks around and between
the tokens, is read as that grammar, and nothing is recorded. -/
theorem ofText_spell :
    (∀ text g, (ofText text).value = .ok g → g.WellFormed) ∧
    ∀ g : Grammar, g.WellFormed → ∀ rules : List (Char × Word), rules.Perm g.rules.entries →
      ∀ lead items, AllBlank lead → (∀ p ∈ items, AllBlank p.2) →
        (∀ p ∈ items.dropLast, p.2 ≠ []) → items.map Prod.fst = g.sourceTokens rules →
          ofText (spell lead items) = ⟨.ok g, []⟩ := by
  refine ⟨fun _ _ ↦ wellFormed_of_value_ofText, ?_⟩
  intro g hg rules hrules lead items hlead hblank hgap hitems
  have hapart : KeepsApart items := by
    refine ⟨fun p hp ↦ hg.isToken hrules ?_, hblank, hgap⟩
    rw [← hitems]
    exact List.mem_map_of_mem hp
  rw [ofText, Text.tokens_spell hlead hapart, hitems, ofTokens_sourceTokens hg hrules]

/-- Symbols and words that look like counts, rules out of order, and other blanks than spaces. -/
theorem ofText_spell_digits :
    let rules : List (Char × Word) := [('4', "+4".toList), ('+', "2".toList)]
    let g : Grammar := ⟨8, Rules.ofList rules, "4+".toList⟩
    let items : List (Token × List Char) :=
      [("8".toList, ['\u00a0']), ("2".toList, ['\n', '\t']), ("4".toList, ['\u3000']),
        ("+4".toList, [' ']), ("+".toList, ['\u2028']), ("2".toList, ['\u0085']), ("4+".toList, [])]
    g.WellFormed ∧ rules.Perm g.rules.entries ∧ AllBlank ['\r', '\n'] ∧
      (∀ p ∈ items, AllBlank p.2) ∧ (∀ p ∈ items.dropLast, p.2 ≠ []) ∧
      items.map Prod.fst = g.sourceTokens rules ∧
      ofText (spell ['\r', '\n'] items) = ⟨.ok g, []⟩ := by
  intro rules g items
  have hg : g.WellFormed := ofText_spell.1 "8 2 + 2 4 +4 4+".toList g (by decide +kernel)
  have hrules : rules.Perm g.rules.entries := by decide +kernel
  have hlead : AllBlank ['\r', '\n'] := by decide +kernel
  have hblank : ∀ p ∈ items, AllBlank p.2 := by decide +kernel
  have hgap : ∀ p ∈ items.dropLast, p.2 ≠ [] := by decide +kernel
  have hitems : items.map Prod.fst = g.sourceTokens rules := by decide +kernel
  exact ⟨hg, hrules, hlead, hblank, hgap, hitems,
    ofText_spell.2 g hg rules hrules _ items hlead hblank hgap hitems⟩

end Grammar

end Lindenmayer
