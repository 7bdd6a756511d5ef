import Lindenmayer.Text.Blank
import Mathlib.Data.List.Basic
import Mathlib.Tactic.Common

/-!
# Tokens and the texts that spell them

A token is a text of its own without blanks, and not empty. A text is spelled from tokens by blanks
between them: at least one behind each token but the last one, and any number in front of the first
token and behind the last one. Every text is spelled in this way, and the tokens are the same in
every way to do so; they are the tokens that the reader finds.
-/

namespace Lindenmayer.Text

/-- A text without blanks that is not empty. -/
def IsToken (t : List Char) : Prop :=
  t ≠ [] ∧ ∀ c ∈ t, isBlank c = false

/-- Nothing but blanks. -/
def AllBlank (gap : List Char) : Prop :=
  ∀ c ∈ gap, isBlank c = true

-- only the characters of the text are looked at, not all that there are
instance (gap : List Char) : Decidable (AllBlank gap) :=
  List.decidableBAll (fun c ↦ isBlank c = true) gap

/-- The text of tokens and the gaps behind them, after a gap in front. -/
def spell (lead : List Char) (items : List (List Char × List Char)) : List Char :=
  lead ++ items.flatMap fun p ↦ p.1 ++ p.2

/-- Tokens with gaps behind them keep apart: only the last gap may be empty. -/
structure KeepsApart (items : List (List Char × List Char)) : Prop where
  token : ∀ p ∈ items, IsToken p.1
  blank : ∀ p ∈ items, AllBlank p.2
  gap : ∀ p ∈ items.dropLast, p.2 ≠ []

variable {c : Char} {cs t gap lead : List Char} {p : List Char × List Char}
  {items : List (List Char × List Char)}

theorem spell_cons (lead : List Char) (p : List Char × List Char)
    (items : List (List Char × List Char)) :
    spell lead (p :: items) = lead ++ (p.1 ++ spell p.2 items) := by
  rw [spell, spell, List.flatMap_cons, List.append_assoc]

/-! ## One token more -/

theorem split_cons (c : Char) (cs : List Char) : split (c :: cs) = (split cs).cons c := rfl

theorem Split.cons_of_isBlank (h : isBlank c = true) (s : Split) :
    s.cons c = ⟨false, s.tokens⟩ := by
  cases s
  exact if_pos h

/-- A character begins a token in front of a blank, a token or the end of the text, and joins one
that begins right behind it. -/
theorem Split.cons_of_not_isBlank (h : isBlank c = false) (ts : List (List Char)) :
    Split.cons c ⟨false, ts⟩ = ⟨true, [c] :: ts⟩ ∧
      ∀ t, Split.cons c ⟨true, t :: ts⟩ = ⟨true, (c :: t) :: ts⟩ := by
  have hc : ¬isBlank c = true := Bool.not_eq_true _ ▸ h
  exact ⟨if_neg hc, fun t ↦ if_neg hc⟩

theorem split_cons_of_isBlank (h : isBlank c = true) (cs : List Char) :
    split (c :: cs) = ⟨false, tokens cs⟩ :=
  (split cs).cons_of_isBlank h

theorem tokens_append_of_allBlank (h : AllBlank gap) (cs : List Char) :
    tokens (gap ++ cs) = tokens cs := by
  induction gap with
  | nil => rfl
  | cons c gap ih =>
    obtain ⟨hc, hgap⟩ := List.forall_mem_cons.mp h
    rw [List.cons_append, tokens, split_cons_of_isBlank hc, ih hgap]

theorem split_append_of_isToken (ht : IsToken t) (hcs : (split cs).joins = false) :
    split (t ++ cs) = ⟨true, t :: tokens cs⟩ := by
  obtain ⟨hne, hblank⟩ := ht
  induction t with
  | nil => exact absurd rfl hne
  | cons c t ih =>
    obtain ⟨hc, ht⟩ := List.forall_mem_cons.mp hblank
    rw [List.cons_append, split_cons]
    cases t with
    | nil =>
      have hsplit : split cs = ⟨false, tokens cs⟩ := by rw [← hcs]; rfl
      rw [List.nil_append, hsplit, (Split.cons_of_not_isBlank hc _).1]
    | cons c' t => rw [ih (List.cons_ne_nil _ _) ht, (Split.cons_of_not_isBlank hc _).2]

theorem keepsApart_nil : KeepsApart [] := ⟨nofun, nofun, nofun⟩

theorem keepsApart_cons : KeepsApart (p :: items) ↔
    (IsToken p.1 ∧ AllBlank p.2 ∧ (items ≠ [] → p.2 ≠ [])) ∧ KeepsApart items := by
  constructor
  · intro h
    obtain ⟨hp, htoken⟩ := List.forall_mem_cons.mp h.token
    obtain ⟨hblank, hblanks⟩ := List.forall_mem_cons.mp h.blank
    cases items with
    | nil => exact ⟨⟨hp, hblank, fun h ↦ absurd rfl h⟩, keepsApart_nil⟩
    | cons q items =>
      obtain ⟨hgap, hgaps⟩ := List.forall_mem_cons.mp h.gap
      exact ⟨⟨hp, hblank, fun _ ↦ hgap⟩, htoken, hblanks, hgaps⟩
  · rintro ⟨⟨hp, hblank, hgap⟩, h⟩
    refine ⟨List.forall_mem_cons.mpr ⟨hp, h.token⟩, List.forall_mem_cons.mpr ⟨hblank, h.blank⟩, ?_⟩
    cases items with
    | nil => nofun
    | cons q items => exact List.forall_mem_cons.mpr ⟨hgap (List.cons_ne_nil _ _), h.gap⟩

/-- What stands behind the first token does not join it. -/
theorem KeepsApart.joins_spell (h : KeepsApart (p :: items)) :
    (split (spell p.2 items)).joins = false := by
  obtain ⟨⟨-, hblank, hgap⟩, -⟩ := keepsApart_cons.mp h
  obtain ⟨t, gap⟩ := p
  cases gap with
  | cons c gap => rw [spell, List.cons_append, split_cons_of_isBlank (hblank c List.mem_cons_self)]
  | nil =>
    cases items with
    | nil => rfl
    | cons q items => exact absurd rfl (hgap (List.cons_ne_nil _ _))

theorem isBlank_of_isDigit (h : c.isDigit = true) : isBlank c = false := by
  have hrange : 48 ≤ c.val.toNat ∧ c.val.toNat ≤ 57 := by
    rw [Char.isDigit, Bool.and_eq_true, decide_eq_true_iff, decide_eq_true_iff] at h
    exact ⟨UInt32.le_iff_toNat_le.mp h.1, UInt32.le_iff_toNat_le.mp h.2⟩
  have hranges : ∀ r ∈ blankRanges, r.2 < 48 ∨ 57 < r.1 := by decide
  rw [isBlank, inRanges, List.any_eq_false]
  intro r hr hc
  rw [Bool.and_eq_true, decide_eq_true_iff, decide_eq_true_iff, Char.toNat] at hc
  have := hranges r hr
  omega

/-! ## All tokens -/

theorem tokens_spell (hlead : AllBlank lead) (h : KeepsApart items) :
    tokens (spell lead items) = items.map Prod.fst := by
  induction items generalizing lead with
  | nil => exact tokens_append_of_allBlank hlead []
  | cons p items ih =>
    obtain ⟨⟨hp, hblank, -⟩, hitems⟩ := keepsApart_cons.mp h
    rw [spell_cons, tokens_append_of_allBlank hlead, tokens,
      split_append_of_isToken hp h.joins_spell, ih hblank hitems, List.map_cons]

theorem exists_eq_spell (text : List Char) :
    ∃ lead items, AllBlank lead ∧ KeepsApart items ∧ text = spell lead items := by
  induction text with
  | nil => exact ⟨[], [], nofun, keepsApart_nil, rfl⟩
  | cons c text ih =>
    obtain ⟨lead, items, hlead, hitems, rfl⟩ := ih
    by_cases hc : isBlank c = true
    · exact ⟨c :: lead, items, List.forall_mem_cons.mpr ⟨hc, hlead⟩, hitems, rfl⟩
    have hc : isBlank c = false := Bool.not_eq_true _ ▸ hc
    have hsingle : IsToken [c] := ⟨List.cons_ne_nil _ _, List.forall_mem_singleton.mpr hc⟩
    by_cases hapart : items ≠ [] → lead ≠ []
    · refine ⟨[], ([c], lead) :: items, nofun, ?_, (spell_cons [] ([c], lead) items).symm⟩
      exact keepsApart_cons.mpr ⟨⟨hsingle, hlead, hapart⟩, hitems⟩
    · -- a token begins right behind the character, which joins it
      obtain ⟨hne, hlead⟩ := Classical.not_imp.mp hapart
      obtain rfl := not_not.mp hlead
      match items, hne with
      | p :: items, _ =>
        obtain ⟨⟨hp, hblank, hgap⟩, hitems⟩ := keepsApart_cons.mp hitems
        have htoken : IsToken (c :: p.1) :=
          ⟨List.cons_ne_nil _ _, List.forall_mem_cons.mpr ⟨hc, hp.2⟩⟩
        refine ⟨[], (c :: p.1, p.2) :: items, nofun, ?_, ?_⟩
        · exact keepsApart_cons.mpr ⟨⟨htoken, hblank, hgap⟩, hitems⟩
        · rw [spell_cons, spell_cons]
          rfl

/-- **The tokens of a text.** They are the only tokens from which it is spelled. -/
theorem tokens_eq_iff {text : List Char} {ts : List (List Char)} :
    tokens text = ts ↔ ∃ lead items,
      AllBlank lead ∧ KeepsApart items ∧ text = spell lead items ∧ items.map Prod.fst = ts := by
  constructor
  · rintro rfl
    obtain ⟨lead, items, hlead, hitems, rfl⟩ := exists_eq_spell text
    exact ⟨lead, items, hlead, hitems, rfl, (tokens_spell hlead hitems).symm⟩
  · rintro ⟨lead, items, hlead, hitems, rfl, rfl⟩
    exact tokens_spell hlead hitems

theorem isToken_of_mem_tokens {text : List Char} (h : t ∈ tokens text) : IsToken t := by
  obtain ⟨lead, items, hlead, hitems, rfl⟩ := exists_eq_spell text
  rw [tokens_spell hlead hitems] at h
  obtain ⟨p, hp, rfl⟩ := List.mem_map.mp h
  exact hitems.token p hp

end Lindenmayer.Text
