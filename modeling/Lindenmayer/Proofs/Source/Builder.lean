import Lindenmayer.Proofs.Source.Reading

/-!
# The reader and the builder

A grammar can be read from a text, or be made from its first word and given its rules one by one.
Both keep the first rule of a symbol, and both record each rule that they pass over; the reader adds
the number of that rule, and what is left of the text. This is the only difference between the two:
a text that is accepted reads as the grammar that is built from what it lists.

## Which rules are passed over

Reader and builder ask the rules they have so far whether a symbol has one. Said by positions, a
rule is passed over if an earlier one is for its symbol, whether or not that earlier one was itself
passed over. `passedOver` has both forms in it: the rules so far and the list that is still to come.
One more rule moves from the list to the rules, and the positions in the rest go up by one.
-/

namespace Lindenmayer

theorem Rules.contains_insertNew (r : Rules) (c d : Char) (w : Word) :
    (r.insertNew c w).contains d = true ↔ c = d ∨ r.contains d = true := by
  rw [contains, find?_insertNew, contains]
  by_cases hd : d = c
  · simp [hd]
  · simp [hd, Ne.symm hd]

namespace Grammar

open Text (tokens)

/-! ## Rules that are passed over -/

/-- The positions, in increasing order, of the rules whose symbol has an earlier one in the list. -/
def repeated (pairs : List (Char × Word)) : List (Fin pairs.length) :=
  (List.finRange pairs.length).filter fun n ↦ ∃ m < n, pairs[m].1 = pairs[n].1

/-- The positions of the rules whose symbol has one already, or an earlier one in the list. -/
def passedOver (rules : Rules) (pairs : List (Char × Word)) : List (Fin pairs.length) :=
  (List.finRange pairs.length).filter fun n ↦
    rules.contains pairs[n].1 ∨ ∃ m < n, pairs[m].1 = pairs[n].1

theorem passedOver_empty (pairs : List (Char × Word)) :
    passedOver .empty pairs = repeated pairs := by
  refine List.filter_congr fun n _ ↦ ?_
  simp [Rules.contains]

theorem passedOver_cons (rules : Rules) (p : Char × Word) (pairs : List (Char × Word)) :
    passedOver rules (p :: pairs) =
      (if rules.contains p.1 then [0] else []) ++
        (passedOver (rules.insertNew p.1 p.2) pairs).map Fin.succ := by
  have hfirst : (rules.contains p.1 = true ∨
      ∃ m < (0 : Fin (p :: pairs).length), (p :: pairs)[m].1 = p.1) ↔ rules.contains p.1 = true :=
    or_iff_left fun ⟨_, hm, _⟩ ↦ Nat.not_lt_zero _ hm
  have hrest : ∀ n : Fin pairs.length,
      (rules.contains (p :: pairs)[n.succ].1 = true ∨
        ∃ m < n.succ, (p :: pairs)[m].1 = (p :: pairs)[n.succ].1) ↔
      ((rules.insertNew p.1 p.2).contains pairs[n].1 = true ∨
        ∃ m < n, pairs[m].1 = pairs[n].1) := by
    intro n
    have hearlier : (∃ m < n.succ, (p :: pairs)[m].1 = (p :: pairs)[n.succ].1) ↔
        p.1 = pairs[n].1 ∨ ∃ m < n, pairs[m].1 = pairs[n].1 := by
      refine Fin.exists_fin_succ.trans (or_congr (and_iff_right n.succ_pos) ?_)
      exact exists_congr fun m ↦ and_congr_left' Fin.succ_lt_succ_iff
    rw [hearlier, Rules.contains_insertNew, or_left_comm, or_assoc]
    rfl
  have hrange : List.finRange (p :: pairs).length =
      [0] ++ (List.finRange pairs.length).map Fin.succ := List.finRange_succ
  refine (congrArg (List.filter _) hrange).trans ?_
  rw [List.filter_append, List.filter_map, passedOver]
  congr 1
  · by_cases h : rules.contains p.1 = true
    · rw [if_pos h]
      exact List.filter_cons_of_pos (decide_eq_true (hfirst.mpr h))
    · rw [if_neg h]
      exact List.filter_cons_of_neg fun hd ↦ h (hfirst.mp (of_decide_eq_true hd))
  · refine congrArg _ (List.filter_congr fun n _ ↦ ?_)
    exact decide_eq_decide.mpr (hrest n)

theorem repeats_eq_map (number : ℕ) (rules : Rules) (pairs : List (Char × Word)) :
    repeats number rules pairs =
      (passedOver rules pairs).map fun n ↦ .duplicateRule pairs[n].1 (some (number + n)) := by
  induction pairs generalizing number rules with
  | nil => rfl
  | cons p pairs ih =>
    rw [repeats, ih, passedOver_cons, List.map_append, List.map_map]
    congr 1
    · split <;> rfl
    · refine List.map_congr_left fun n _ ↦ ?_
      simp [Nat.add_assoc, Nat.add_comm 1]

/-! ## The builder -/

/-- Rules are added as the reader adds them. -/
theorem withRules_eq (g : Grammar) (pairs : List (Char × Word)) :
    (g.withRules pairs).value = { g with rules := g.rules.addAll pairs } ∧
      (g.withRules pairs).log =
        (passedOver g.rules pairs).map fun n ↦ .duplicateRule pairs[n].1 none := by
  induction pairs generalizing g with
  | nil => exact ⟨rfl, rfl⟩
  | cons p pairs ih =>
    obtain ⟨hvalue, hlog⟩ := ih (g.withRule p.1 p.2).value
    refine ⟨hvalue, ?_⟩
    rw [withRules, passedOver_cons, List.map_append, List.map_map]
    dsimp only
    rw [hlog]
    congr 1
    rw [withRule]
    split <;> rfl

theorem trailing_eq_ite (ts : List Token) :
    trailing ts = if ts = [] then [] else [.trailingTokens ts.length] := by
  cases ts with
  | nil => rfl
  | cons t ts => rfl

/-! ## Texts -/

/-- A stream lists rules and a word to start from behind its counts; the rest is not looked at. -/
structure Lists (ts : List Token) (directions : UInt64) (pairs : List (Char × Word)) (start : Word)
    (rest : List Token) : Prop where
  counts : GivesCounts ts directions.toNat pairs.length
  items : ts.drop 2 = ruleTokens pairs ++ start :: rest

theorem Lists.ofTokens_eq {ts : List Token} {directions : UInt64} {pairs : List (Char × Word)}
    {start : Word} {rest : List Token} (h : Lists ts directions pairs start rest) :
    ofTokens ts = ⟨.ok ⟨directions, Rules.empty.addAll pairs, start⟩,
      repeats 1 .empty pairs ++ trailing rest⟩ := by
  obtain ⟨hcounts, hitems⟩ := h
  obtain ⟨t₀, t₁, body, rfl, h₀, hpos, h₁⟩ := hcounts.exists_eq
  rw [List.drop_succ_cons, List.drop_succ_cons, List.drop_zero] at hitems
  rw [hitems, ofTokens_of_complete pairs h₀ hpos h₁, UInt64.ofNat_toNat]

theorem exists_lists {ts : List Token} {g : Grammar} (h : (ofTokens ts).value = .ok g) :
    ∃ pairs start rest, Lists ts g.directions pairs start rest := by
  obtain ⟨r, hr⟩ := holds_of_value_ofTokens h
  have hrules := (givesRules_iff hr.length).mpr hr.symbols
  obtain ⟨t₀, t₁, pairs, rest, rfl, rfl, -, -, -, hrest⟩ := hr.counts.exists_ruleTokens hrules
  match rest, (hrest 0).trans hr.start with
  | _ :: rest, rfl => exact ⟨pairs, g.start, rest, hr.counts, rfl⟩

/-- **The reader is the builder.** A text that is accepted lists a positive number of directions,
rules, and a word to start from. What is read from it is the grammar made of that word and given
those rules in their order. Both record the rules that are passed over, those whose symbol has an
earlier one in the list, in increasing order of their positions; the reader adds their numbers,
counted from one, and one event for the tokens that are left, if there are any. -/
theorem ofText_eq_withRules (text : List Char) :
    (∀ g, (ofText text).value = .ok g →
      ∃ pairs start rest, Lists (tokens text) g.directions pairs start rest) ∧
    ∀ directions pairs start rest, Lists (tokens text) directions pairs start rest →
      ∃ g, make directions start = .ok g ∧
        (ofText text).value = .ok (g.withRules pairs).value ∧
        (g.withRules pairs).log =
          (repeated pairs).map (fun n ↦ .duplicateRule pairs[n].1 none) ∧
        (ofText text).log =
          (repeated pairs).map (fun n ↦ .duplicateRule pairs[n].1 (some (n + 1))) ++
            if rest = [] then [] else [.trailingTokens rest.length] := by
  refine ⟨fun g ↦ exists_lists, fun directions pairs start rest h ↦ ?_⟩
  obtain ⟨t₀, -, -, -, -, hpos, -⟩ := h.counts.exists_eq
  have hne : directions ≠ 0 := by
    rintro rfl
    exact absurd hpos (by decide)
  obtain ⟨hvalue, hlog⟩ := withRules_eq ⟨directions, .empty, start⟩ pairs
  refine ⟨⟨directions, .empty, start⟩, if_neg hne, ?_, ?_, ?_⟩
  · rw [ofText, h.ofTokens_eq, hvalue]
  · rw [hlog, passedOver_empty]
  · rw [ofText, h.ofTokens_eq, repeats_eq_map, passedOver_empty, trailing_eq_ite]
    simp only [Nat.add_comm 1]

/-- Of the rules for two symbols the later ones are passed over, whatever their words are. -/
theorem ofText_eq_withRules_repeated :
    let text := "4 4 F FF G F F GG G G F a b".toList
    let pairs := [('F', ['F', 'F']), ('G', ['F']), ('F', ['G', 'G']), ('G', ['G'])]
    Lists (tokens text) 4 pairs ['F'] [['a'], ['b']] ∧
      ∃ g, make 4 ['F'] = .ok g ∧ (ofText text).value = .ok (g.withRules pairs).value ∧
        (ofText text).log =
          [.duplicateRule 'F' (some 3), .duplicateRule 'G' (some 4), .trailingTokens 2] := by
  intro text pairs
  have hfour : Text.Numeral64 ['4'] 4 := Text.readInt64?_eq_some_iff.mp (by decide)
  have htokens : tokens text = [['4'], ['4']] ++ (ruleTokens pairs ++ ['F'] :: [['a'], ['b']]) := by
    decide +kernel
  have hlists : Lists (tokens text) 4 pairs ['F'] [['a'], ['b']] := by
    rw [htokens]
    exact ⟨⟨⟨['4'], rfl, hfour, by decide⟩, ['4'], rfl, hfour⟩, rfl⟩
  obtain ⟨g, hg, hvalue, -, hlog⟩ := (ofText_eq_withRules text).2 4 pairs _ _ hlists
  exact ⟨hlists, g, hg, hvalue, hlog.trans (by decide)⟩

end Grammar

end Lindenmayer
