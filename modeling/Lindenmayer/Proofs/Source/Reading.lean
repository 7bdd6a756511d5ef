import Lindenmayer.Grammar.Source
import Lindenmayer.Proofs.Source.Numeral
import Mathlib.Data.List.Basic
import Mathlib.Tactic.Common

/-!
# Reading a grammar from its tokens

The reader goes through a stream of tokens once and stops at the first fault. Both of its ends are
said here by positions in the stream, without the reader: which streams hold a grammar, and which
fault is the first one of any other stream. The tokens of rule `n`, counted from zero, are those
with the indices `2 * n + 2` and `2 * n + 3`; the word to start from stands behind the last rule.

## Two forms of a run of rules

By positions, a run of complete rules is a condition on each of its indices. The reader takes the
tokens off the front, so its proofs want a run as a prefix: `ruleTokens pairs`, followed by
anything. The first form is turned into the second one once, in `GivesCounts.exists_ruleTokens`, and
back by `getElem?_ruleTokens`; no other proof counts indices.

What the reader does behind a run of rules is `readRules_ruleTokens`: it has taken them all, and
goes on as if it began there. The number of rules that a text claims therefore plays no part before
the tokens end, however large it is.
-/

namespace Lindenmayer

open Text (tokens readInt64? Numeral64)

/-! ## Rules one after another -/

/-- Gives rules one after another to the symbols that have none yet. -/
def Rules.addAll (r : Rules) (pairs : List (Char × Word)) : Rules :=
  pairs.foldl (fun r p ↦ r.insertNew p.1 p.2) r

theorem Rules.find?_addAll (r : Rules) (pairs : List (Char × Word)) (c : Char) :
    (r.addAll pairs).find? c = (r.find? c).or (pairs.lookup c) := by
  induction pairs generalizing r with
  | nil => rw [addAll, List.foldl_nil, List.lookup_nil, Option.or_none]
  | cons p pairs ih =>
    refine (ih (r.insertNew p.1 p.2)).trans ?_
    rw [find?_insertNew]
    by_cases hc : c = p.1
    · subst hc
      rw [if_pos rfl, List.lookup_cons, beq_self_eq_true]
      cases r.find? p.1 <;> rfl
    · rw [if_neg hc, List.lookup_cons, beq_false_of_ne hc]

theorem Rules.find?_addAll_empty (pairs : List (Char × Word)) (c : Char) :
    (Rules.empty.addAll pairs).find? c = pairs.lookup c := by
  rw [find?_addAll, find?_empty, Option.none_or]

namespace Grammar

/-- The tokens of rules. -/
def ruleTokens (pairs : List (Char × Word)) : List Token :=
  pairs.flatMap fun p ↦ [[p.1], p.2]

/-- The record of the rules passed over, the first of which has the given number. -/
def repeats : (number : ℕ) → Rules → List (Char × Word) → List Event
  | _, _, [] => []
  | number, rules, p :: pairs =>
    (if rules.contains p.1 then [.duplicateRule p.1 (some number)] else []) ++
      repeats (number + 1) (rules.insertNew p.1 p.2) pairs

theorem ruleTokens_cons (p : Char × Word) (pairs : List (Char × Word)) :
    ruleTokens (p :: pairs) = [p.1] :: p.2 :: ruleTokens pairs := rfl

theorem length_ruleTokens (pairs : List (Char × Word)) :
    (ruleTokens pairs).length = 2 * pairs.length := by
  induction pairs with
  | nil => rfl
  | cons p pairs ih =>
    rw [ruleTokens_cons, List.length_cons, List.length_cons, ih, List.length_cons]
    omega

/-- The reader takes complete rules and goes on behind them. -/
theorem readRules_ruleTokens (pairs : List (Char × Word)) (left number : ℕ) (rules : Rules)
    (ts : List Token) :
    readRules (pairs.length + left) number rules (ruleTokens pairs ++ ts) =
      ⟨(readRules left (number + pairs.length) (rules.addAll pairs) ts).value,
        repeats number rules pairs ++
          (readRules left (number + pairs.length) (rules.addAll pairs) ts).log⟩ := by
  induction pairs generalizing number rules with
  | nil => simp [ruleTokens, repeats, Rules.addAll]
  | cons p pairs ih =>
    have hnumber : number + (pairs.length + 1) = number + 1 + pairs.length := by omega
    rw [ruleTokens_cons, List.length_cons, Nat.add_right_comm, List.cons_append, List.cons_append,
      readRules, ih, repeats, hnumber]
    split <;> rfl

/-! ## Rules by positions -/

theorem getElem?_append_ruleTokens (pairs : List (Char × Word)) (rest : List Token) (k : ℕ) :
    (ruleTokens pairs ++ rest)[2 * pairs.length + k]? = rest[k]? := by
  rw [← length_ruleTokens, List.getElem?_append_right (Nat.le_add_right _ _),
    Nat.add_sub_cancel_left]

theorem getElem?_ruleTokens {pairs : List (Char × Word)} {n : ℕ} {c : Char} {w : Word}
    (h : pairs[n]? = some (c, w)) (rest : List Token) :
    (ruleTokens pairs ++ rest)[2 * n]? = some [c] ∧
      (ruleTokens pairs ++ rest)[2 * n + 1]? = some w := by
  induction pairs generalizing n with
  | nil => cases h
  | cons p pairs ih =>
    cases n with
    | zero =>
      cases h
      exact ⟨rfl, rfl⟩
    | succ n => exact ih h

theorem exists_eq_ruleTokens_append {n : ℕ} {ts : List Token}
    (h : ∀ k < n, (∃ c, ts[2 * k]? = some [c]) ∧ ∃ w, ts[2 * k + 1]? = some w) :
    ∃ pairs rest, pairs.length = n ∧ ts = ruleTokens pairs ++ rest := by
  induction n generalizing ts with
  | zero => exact ⟨[], ts, rfl, rfl⟩
  | succ n ih =>
    obtain ⟨⟨c, hc⟩, w, hw⟩ := h 0 n.succ_pos
    match ts, hc, hw with
    | _ :: _ :: ts, rfl, rfl =>
      obtain ⟨pairs, rest, hlength, rfl⟩ := ih fun k hk ↦ h (k + 1) (Nat.succ_lt_succ hk)
      exact ⟨(c, w) :: pairs, rest, by rw [List.length_cons, hlength], rfl⟩

/-! ## What a stream says -/

/-- A stream begins with a number of directions. -/
def GivesDirections (ts : List Token) (d : ℕ) : Prop :=
  ∃ t, ts[0]? = some t ∧ Numeral64 t d ∧ 1 ≤ d

/-- A stream begins with a number of directions and a number of rules. -/
structure GivesCounts (ts : List Token) (d r : ℕ) : Prop where
  directions : GivesDirections ts d
  rules : ∃ t, ts[1]? = some t ∧ Numeral64 t r

/-- The first `n` rules of a stream are there, and their symbols are single characters. -/
def GivesRules (ts : List Token) (n : ℕ) : Prop :=
  ∀ k < n, (∃ c, ts[2 * k + 2]? = some [c]) ∧ ∃ w, ts[2 * k + 3]? = some w

/-- The first fault of a stream, in the order of its tokens: all that stands before the place of a
fault is as it should be. -/
inductive FirstFault (ts : List Token) : Error → Prop
  | noDirections : ts[0]? = none → FirstFault ts (.malformed (.missing (.count .directions)))
  | directionsNotInteger {t : Token} : ts[0]? = some t → (∀ i, ¬Numeral64 t i) →
      FirstFault ts (.malformed (.notInteger .directions t))
  | tooFewDirections {t : Token} {i : ℤ} : ts[0]? = some t → Numeral64 t i → i < 1 →
      FirstFault ts (.directionCount i)
  | noRuleCount {d : ℕ} : GivesDirections ts d → ts[1]? = none →
      FirstFault ts (.malformed (.missing (.count .rules)))
  | ruleCountNotInteger {d : ℕ} {t : Token} : GivesDirections ts d → ts[1]? = some t →
      (∀ i, ¬Numeral64 t i) → FirstFault ts (.malformed (.notInteger .rules t))
  | negativeRuleCount {d : ℕ} {t : Token} {i : ℤ} : GivesDirections ts d → ts[1]? = some t →
      Numeral64 t i → i < 0 → FirstFault ts (.malformed (.negativeRuleCount i))
  | noSymbol {d r n : ℕ} : GivesCounts ts d r → n < r → GivesRules ts n →
      ts[2 * n + 2]? = none → FirstFault ts (.malformed (.missing (.symbol (n + 1))))
  | longSymbol {d r n : ℕ} {t : Token} : GivesCounts ts d r → n < r → GivesRules ts n →
      ts[2 * n + 2]? = some t → t.length ≠ 1 → FirstFault ts (.malformed (.longSymbol (n + 1) t))
  | noReplacement {d r n : ℕ} {c : Char} : GivesCounts ts d r → n < r → GivesRules ts n →
      ts[2 * n + 2]? = some [c] → ts[2 * n + 3]? = none →
      FirstFault ts (.malformed (.missing (.replacement (n + 1))))
  | noStart {d r : ℕ} : GivesCounts ts d r → GivesRules ts r → ts[2 * r + 2]? = none →
      FirstFault ts (.malformed (.missing .start))

variable {ts : List Token}

theorem GivesDirections.exists_eq {d : ℕ} (h : GivesDirections ts d) :
    ∃ t₀ body, ts = t₀ :: body ∧ Numeral64 t₀ d ∧ 1 ≤ d := by
  obtain ⟨t₀, h₀, hd, hpos⟩ := h
  match ts, h₀ with
  | _ :: body, rfl => exact ⟨t₀, body, rfl, hd, hpos⟩

theorem GivesCounts.exists_eq {d r : ℕ} (h : GivesCounts ts d r) :
    ∃ t₀ t₁ body, ts = t₀ :: t₁ :: body ∧ Numeral64 t₀ d ∧ 1 ≤ d ∧ Numeral64 t₁ r := by
  obtain ⟨⟨t₀, h₀, hd, hpos⟩, t₁, h₁, hr⟩ := h
  match ts, h₀, h₁ with
  | _ :: _ :: body, rfl, rfl => exact ⟨t₀, t₁, body, rfl, hd, hpos, hr⟩

theorem GivesCounts.exists_ruleTokens {d r n : ℕ} (h : GivesCounts ts d r)
    (hrules : GivesRules ts n) :
    ∃ t₀ t₁ pairs rest, ts = t₀ :: t₁ :: (ruleTokens pairs ++ rest) ∧ pairs.length = n ∧
      Numeral64 t₀ d ∧ 1 ≤ d ∧ Numeral64 t₁ r ∧ ∀ k, rest[k]? = ts[2 * n + 2 + k]? := by
  obtain ⟨t₀, t₁, body, rfl, h₀, hpos, h₁⟩ := h.exists_eq
  obtain ⟨pairs, rest, rfl, rfl⟩ := exists_eq_ruleTokens_append hrules
  refine ⟨t₀, t₁, pairs, rest, rfl, rfl, h₀, hpos, h₁, fun k ↦ ?_⟩
  rw [Nat.add_right_comm, List.getElem?_cons_succ, List.getElem?_cons_succ,
    getElem?_append_ruleTokens]

/-- A stream lacks its next rule in one of three ways, if it does not give one rule more. -/
theorem GivesRules.succ_or_firstFault {d r n : ℕ} (hcounts : GivesCounts ts d r) (hn : n < r)
    (h : GivesRules ts n) : GivesRules ts (n + 1) ∨ ∃ e, FirstFault ts e := by
  cases hsymbol : ts[2 * n + 2]? with
  | none => exact .inr ⟨_, .noSymbol hcounts hn h hsymbol⟩
  | some t =>
    by_cases hlength : t.length = 1
    · obtain ⟨c, rfl⟩ := List.length_eq_one_iff.mp hlength
      cases hreplacement : ts[2 * n + 3]? with
      | none => exact .inr ⟨_, .noReplacement hcounts hn h hsymbol hreplacement⟩
      | some w =>
        refine .inl fun k hk ↦ ?_
        rcases Nat.lt_succ_iff_lt_or_eq.mp hk with hk | rfl
        · exact h k hk
        · exact ⟨⟨c, hsymbol⟩, w, hreplacement⟩
    · exact .inr ⟨_, .longSymbol hcounts hn h hsymbol hlength⟩

theorem GivesCounts.rules_or_firstFault {d r : ℕ} (hcounts : GivesCounts ts d r) {n : ℕ}
    (hn : n ≤ r) : GivesRules ts n ∨ ∃ e, FirstFault ts e := by
  induction n with
  | zero => exact .inl fun k hk ↦ absurd hk k.not_lt_zero
  | succ n ih =>
    rcases ih (Nat.le_of_succ_le hn) with h | h
    · exact h.succ_or_firstFault hcounts hn
    · exact .inr h

theorem givesDirections_or_firstFault (ts : List Token) :
    (∃ d, GivesDirections ts d) ∨ ∃ e, FirstFault ts e := by
  cases hts : ts[0]? with
  | none => exact .inr ⟨_, .noDirections hts⟩
  | some t =>
    by_cases ht : ∃ i, Numeral64 t i
    · obtain ⟨i, hi⟩ := ht
      by_cases hpos : i < 1
      · exact .inr ⟨_, .tooFewDirections hts hi hpos⟩
      · lift i to ℕ using by omega
        exact .inl ⟨i, t, hts, hi, by omega⟩
    · exact .inr ⟨_, .directionsNotInteger hts (not_exists.mp ht)⟩

theorem GivesDirections.counts_or_firstFault {d : ℕ} (hd : GivesDirections ts d) :
    (∃ r, GivesCounts ts d r) ∨ ∃ e, FirstFault ts e := by
  cases hts : ts[1]? with
  | none => exact .inr ⟨_, .noRuleCount hd hts⟩
  | some t =>
    by_cases ht : ∃ i, Numeral64 t i
    · obtain ⟨i, hi⟩ := ht
      by_cases hneg : i < 0
      · exact .inr ⟨_, .negativeRuleCount hd hts hi hneg⟩
      · lift i to ℕ using by omega
        exact .inl ⟨i, hd, t, hts, hi⟩
    · exact .inr ⟨_, .ruleCountNotInteger hd hts (not_exists.mp ht)⟩

/-- Every stream has a first fault or comes to its end. -/
theorem complete_or_firstFault (ts : List Token) :
    (∃ d r start, GivesCounts ts d r ∧ GivesRules ts r ∧ ts[2 * r + 2]? = some start) ∨
      ∃ e, FirstFault ts e := by
  rcases givesDirections_or_firstFault ts with ⟨d, hd⟩ | h
  · rcases hd.counts_or_firstFault with ⟨r, hcounts⟩ | h
    · rcases hcounts.rules_or_firstFault (Nat.le_refl r) with hrules | h
      · cases hstart : ts[2 * r + 2]? with
        | none => exact .inr ⟨_, .noStart hcounts hrules hstart⟩
        | some start => exact .inl ⟨d, r, start, hcounts, hrules, hstart⟩
      · exact .inr h
    · exact .inr h
  · exact .inr h

/-! ## The ends of the reader -/

theorem ofTokens_of_directions {d : ℕ} {t₀ : Token} (h₀ : Numeral64 t₀ d) (hd : 1 ≤ d)
    (body : List Token) :
    ofTokens (t₀ :: body) =
      match readCount .rules body with
      | .error fault => ⟨.error (.malformed fault), []⟩
      | .ok (count, ts) =>
        if count < 0 then ⟨.error (.malformed (.negativeRuleCount count)), []⟩
        else match readRules count.toNat 1 .empty ts with
          | ⟨.error fault, log⟩ => ⟨.error (.malformed fault), log⟩
          | ⟨.ok (_, []), log⟩ => ⟨.error (.malformed (.missing .start)), log⟩
          | ⟨.ok (rules, start :: ts), log⟩ =>
            ⟨.ok ⟨UInt64.ofNat d, rules, start⟩, log ++ trailing ts⟩ := by
  rw [ofTokens, readCount, Text.readInt64?_eq_some_iff.mpr h₀]
  exact if_neg (by omega)

theorem ofTokens_of_counts {d r : ℕ} {t₀ t₁ : Token} (h₀ : Numeral64 t₀ d) (hd : 1 ≤ d)
    (h₁ : Numeral64 t₁ r) (body : List Token) :
    ofTokens (t₀ :: t₁ :: body) =
      match readRules r 1 .empty body with
      | ⟨.error fault, log⟩ => ⟨.error (.malformed fault), log⟩
      | ⟨.ok (_, []), log⟩ => ⟨.error (.malformed (.missing .start)), log⟩
      | ⟨.ok (rules, start :: ts), log⟩ =>
        ⟨.ok ⟨UInt64.ofNat d, rules, start⟩, log ++ trailing ts⟩ := by
  rw [ofTokens_of_directions h₀ hd, readCount, Text.readInt64?_eq_some_iff.mpr h₁]
  exact if_neg (by omega)

/-- A text that comes to its end is read as it stands: its rules in their order, then the word to
start from; the rules passed over and what stands behind that word are recorded. -/
theorem ofTokens_of_complete {d : ℕ} {t₀ t₁ : Token} (pairs : List (Char × Word))
    (h₀ : Numeral64 t₀ d) (hd : 1 ≤ d) (h₁ : Numeral64 t₁ pairs.length) (start : Token)
    (rest : List Token) :
    ofTokens (t₀ :: t₁ :: (ruleTokens pairs ++ start :: rest)) =
      ⟨.ok ⟨UInt64.ofNat d, Rules.empty.addAll pairs, start⟩,
        repeats 1 .empty pairs ++ trailing rest⟩ := by
  have hrules := readRules_ruleTokens pairs 0 1 .empty (start :: rest)
  rw [Nat.add_zero, readRules, List.append_nil] at hrules
  rw [ofTokens_of_counts h₀ hd h₁, hrules]

theorem value_ofTokens_of_readRules_error {d r : ℕ} {t₀ t₁ : Token} {pairs : List (Char × Word)}
    {rest : List Token} {fault : Malformation} (h₀ : Numeral64 t₀ d) (hd : 1 ≤ d)
    (h₁ : Numeral64 t₁ r) (hlt : pairs.length < r)
    (h : ∀ left rules, readRules (left + 1) (pairs.length + 1) rules rest = ⟨.error fault, []⟩) :
    (ofTokens (t₀ :: t₁ :: (ruleTokens pairs ++ rest))).value = .error (.malformed fault) := by
  obtain ⟨left, rfl⟩ : ∃ left, r = pairs.length + (left + 1) := ⟨r - pairs.length - 1, by omega⟩
  rw [ofTokens_of_counts h₀ hd h₁, readRules_ruleTokens, Nat.add_comm 1, h]

theorem value_ofTokens_of_firstFault {e : Error} (h : FirstFault ts e) :
    (ofTokens ts).value = .error e := by
  cases h with
  | noDirections h =>
    rw [List.getElem?_eq_none_iff, Nat.le_zero, List.length_eq_zero_iff] at h
    subst h
    rfl
  | directionsNotInteger h hi =>
    match ts, h with
    | t :: _, rfl => rw [ofTokens, readCount, Text.readInt64?_eq_none_iff.mpr hi]
  | tooFewDirections h hi hlt =>
    match ts, h with
    | t :: _, rfl =>
      rw [ofTokens, readCount, Text.readInt64?_eq_some_iff.mpr hi]
      dsimp only
      rw [if_pos hlt]
  | noRuleCount hd h =>
    obtain ⟨t₀, body, rfl, h₀, hpos⟩ := hd.exists_eq
    match body, h with
    | [], _ => rw [ofTokens_of_directions h₀ hpos, readCount]
  | ruleCountNotInteger hd h hi =>
    obtain ⟨t₀, body, rfl, h₀, hpos⟩ := hd.exists_eq
    match body, h with
    | t :: _, rfl =>
      rw [ofTokens_of_directions h₀ hpos, readCount, Text.readInt64?_eq_none_iff.mpr hi]
  | negativeRuleCount hd h hi hlt =>
    obtain ⟨t₀, body, rfl, h₀, hpos⟩ := hd.exists_eq
    match body, h with
    | t :: _, rfl =>
      rw [ofTokens_of_directions h₀ hpos, readCount, Text.readInt64?_eq_some_iff.mpr hi]
      dsimp only
      rw [if_pos hlt]
  | noSymbol hc hlt hrules h =>
    obtain ⟨t₀, t₁, pairs, rest, rfl, rfl, h₀, hpos, h₁, hrest⟩ := hc.exists_ruleTokens hrules
    match rest, (hrest 0).trans h with
    | [], _ => exact value_ofTokens_of_readRules_error h₀ hpos h₁ hlt fun _ _ ↦ rfl
  | longSymbol hc hlt hrules h hlength =>
    obtain ⟨t₀, t₁, pairs, rest, rfl, rfl, h₀, hpos, h₁, hrest⟩ := hc.exists_ruleTokens hrules
    match rest, (hrest 0).trans h with
    | [] :: _, rfl => exact value_ofTokens_of_readRules_error h₀ hpos h₁ hlt fun _ _ ↦ rfl
    | [c] :: _, rfl => exact absurd rfl hlength
    | (c :: c' :: cs) :: _, rfl =>
      exact value_ofTokens_of_readRules_error h₀ hpos h₁ hlt fun _ _ ↦ rfl
  | noReplacement hc hlt hrules h hnone =>
    obtain ⟨t₀, t₁, pairs, rest, rfl, rfl, h₀, hpos, h₁, hrest⟩ := hc.exists_ruleTokens hrules
    match rest, (hrest 0).trans h, (hrest 1).trans hnone with
    | [[c]], rfl, _ => exact value_ofTokens_of_readRules_error h₀ hpos h₁ hlt fun _ _ ↦ rfl
  | noStart hc hrules h =>
    obtain ⟨t₀, t₁, pairs, rest, rfl, rfl, h₀, hpos, h₁, hrest⟩ := hc.exists_ruleTokens hrules
    match rest, (hrest 0).trans h with
    | [], _ =>
      rw [ofTokens_of_counts h₀ hpos h₁, ← Nat.add_zero pairs.length, readRules_ruleTokens,
        readRules]

/-! ## What is read -/

theorem lookup_eq_some_iff {pairs : List (Char × Word)} (rest : List Token) {c : Char} {w : Word} :
    pairs.lookup c = some w ↔ ∃ k < pairs.length,
      (ruleTokens pairs ++ rest)[2 * k]? = some [c] ∧
        (ruleTokens pairs ++ rest)[2 * k + 1]? = some w ∧
          ∀ j < k, (ruleTokens pairs ++ rest)[2 * j]? ≠ some [c] := by
  constructor
  · intro h
    obtain ⟨before, behind, rfl, hbefore⟩ := List.lookup_eq_some_iff.mp h
    have hat : (before ++ (c, w) :: behind)[before.length]? = some (c, w) := by
      rw [List.getElem?_append_right (Nat.le_refl _), Nat.sub_self]
      rfl
    obtain ⟨hsymbol, hreplacement⟩ := getElem?_ruleTokens hat rest
    refine ⟨before.length, ?_, hsymbol, hreplacement, fun j hj hc ↦ ?_⟩
    · rw [List.length_append, List.length_cons]
      omega
    have hj' : (before ++ (c, w) :: behind)[j]? = some before[j] := by
      rw [List.getElem?_append_left hj, List.getElem?_eq_getElem hj]
    rw [(getElem?_ruleTokens hj' rest).1] at hc
    have hne := hbefore before[j] (List.getElem_mem hj)
    cases hc
    exact absurd rfl (bne_iff_ne.mp hne)
  · rintro ⟨k, hk, hsymbol, hreplacement, hfirst⟩
    obtain ⟨hc, hw⟩ := getElem?_ruleTokens (List.getElem?_eq_getElem hk) rest
    have hpair : pairs[k] = (c, w) :=
      Prod.ext (List.singleton_inj.mp (Option.some.inj (hc.symm.trans hsymbol)))
        (Option.some.inj (hw.symm.trans hreplacement))
    refine List.lookup_eq_some_iff.mpr ⟨pairs.take k, pairs.drop (k + 1), ?_, fun p hp ↦ ?_⟩
    · rw [← hpair, List.getElem_cons_drop, List.take_append_drop]
    obtain ⟨j, hj, rfl⟩ := List.mem_take_iff_getElem.mp hp
    rw [Nat.min_eq_left (Nat.le_of_lt hk)] at hj
    have hpair' : pairs[j]? = some (pairs[j].1, pairs[j].2) := List.getElem?_eq_getElem _
    refine bne_iff_ne.mpr fun heq ↦ hfirst j hj ?_
    rw [(getElem?_ruleTokens hpair' rest).1, heq]

/-- A stream holds a grammar with the given number of rules, those passed over among them. -/
structure Holds (ts : List Token) (g : Grammar) (r : ℕ) : Prop where
  counts : GivesCounts ts g.directions.toNat r
  length : 2 * r + 3 ≤ ts.length
  symbols : ∀ n < r, ∃ c, ts[2 * n + 2]? = some [c]
  start : ts[2 * r + 2]? = some g.start
  rules : ∀ c w, g.rules.find? c = some w ↔
    ∃ k < r, ts[2 * k + 2]? = some [c] ∧ ts[2 * k + 3]? = some w ∧
      ∀ j < k, ts[2 * j + 2]? ≠ some [c]

theorem givesRules_iff {r : ℕ} (h : 2 * r + 3 ≤ ts.length) :
    GivesRules ts r ↔ ∀ n < r, ∃ c, ts[2 * n + 2]? = some [c] := by
  refine forall₂_congr fun n hn ↦ and_iff_left ?_
  exact ⟨ts[2 * n + 3], List.getElem?_eq_getElem _⟩

theorem GivesCounts.unique {d d' r r' : ℕ} (h : GivesCounts ts d r) (h' : GivesCounts ts d' r') :
    d = d' ∧ r = r' := by
  obtain ⟨t₀, t₁, body, rfl, h₀, -, h₁⟩ := h.exists_eq
  obtain ⟨_, _, _, heq, h₀', -, h₁'⟩ := h'.exists_eq
  cases heq
  exact ⟨Int.ofNat_inj.mp (h₀.unique h₀'), Int.ofNat_inj.mp (h₁.unique h₁')⟩

theorem Holds.unique {g g' : Grammar} {r r' : ℕ} (h : Holds ts g r) (h' : Holds ts g' r') :
    g = g' := by
  obtain ⟨hdirections, rfl⟩ := h.counts.unique h'.counts
  have hrules : g.rules = g'.rules :=
    Rules.ext_find? fun c ↦ Option.ext fun w ↦ (h.rules c w).trans (h'.rules c w).symm
  have hstart : g.start = g'.start := Option.some.inj (h.start.symm.trans h'.start)
  cases g
  cases g'
  cases UInt64.toNat_inj.mp hdirections
  cases hrules
  cases hstart
  rfl

theorem exists_holds {d r : ℕ} {start : Token} (hcounts : GivesCounts ts d r)
    (hrules : GivesRules ts r) (hstart : ts[2 * r + 2]? = some start) :
    ∃ g, (ofTokens ts).value = .ok g ∧ Holds ts g r := by
  obtain ⟨hlt, -⟩ := List.getElem?_eq_some_iff.mp hstart
  obtain ⟨t₀, t₁, pairs, rest, rfl, rfl, h₀, hpos, h₁, hrest⟩ := hcounts.exists_ruleTokens hrules
  have hd : (UInt64.ofNat d).toNat = d := by
    have hmax := h₀.2.2
    exact UInt64.toNat_ofNat_of_lt' (by rw [UInt64.size]; omega)
  match rest, (hrest 0).trans hstart with
  | _ :: rest, rfl =>
    refine ⟨⟨UInt64.ofNat d, Rules.empty.addAll pairs, start⟩, ?_, ?_⟩
    · rw [ofTokens_of_complete pairs h₀ hpos h₁]
    · refine ⟨hd.symm ▸ hcounts, hlt, (givesRules_iff hlt).mp hrules, hstart, fun c w ↦ ?_⟩
      rw [Rules.find?_addAll_empty]
      exact lookup_eq_some_iff (start :: rest)

theorem holds_of_value_ofTokens {g : Grammar} (h : (ofTokens ts).value = .ok g) :
    ∃ r, Holds ts g r := by
  rcases complete_or_firstFault ts with ⟨d, r, start, hcounts, hrules, hstart⟩ | ⟨e, he⟩
  · obtain ⟨g', hg', hr⟩ := exists_holds hcounts hrules hstart
    cases h.symm.trans hg'
    exact ⟨r, hr⟩
  · cases h.symm.trans (value_ofTokens_of_firstFault he)

/-- The second rule has no replacement, and the two claimed behind it are not missed before it. -/
example : (ofText "4 4\nX X+YF+\u3000Y".toList).value =
    .error (.malformed (.missing (.replacement 2))) := by
  decide +kernel

end Grammar

end Lindenmayer
