import Lindenmayer.Json.Number
import Lindenmayer.Json.Writer
import Lindenmayer.Proofs.Source.Numeral
import Mathlib.Data.List.Forall2
import Mathlib.Tactic.IntervalCases

/-!
# Spelling of written values

What is written for a string, a number or an object is cut into the tokens of that value again,
whatever stands behind it. Only a number has to be told from what follows, since it goes on as long
as there are digits; behind a member of an object there is a comma or a brace, and both end it.

## Escapes

A string is read by two machines, one for its content and one for what is left behind it, and both
go from one written character to the next. All that has to be known of a written character is how
either machine takes it.
-/

namespace Lindenmayer.Json

variable {c : Char} {cs rest : List Char}

/-! ## Characters of strings -/

/-- The ways to write a character in a string: as it is, by a letter, or by its code unit. -/
inductive Spelt (c : Char) : List Char → Prop
  | plain : c ≠ '"' → c ≠ '\\' → 0x20 ≤ c.toNat → Spelt c [c]
  | letter {e : Char} : e ≠ 'u' → escape? e = some c → Spelt c ['\\', e]
  | codeUnit : c.toNat < 0x20 → Spelt c ('\\' :: 'u' :: fourDigits c.toNat)

theorem spelt_stringChar (c : Char) : Spelt c (stringChar c) := by
  rw [stringChar]
  split_ifs with hquote hbackslash hb hf hn hr ht hcontrol
  · exact .letter (by decide) (by rw [hquote]; rfl)
  · exact .letter (by decide) (by rw [hbackslash]; rfl)
  · exact .letter (by decide) (by rw [hb]; rfl)
  · exact .letter (by decide) (by rw [hf]; rfl)
  · exact .letter (by decide) (by rw [hn]; rfl)
  · exact .letter (by decide) (by rw [hr]; rfl)
  · exact .letter (by decide) (by rw [ht]; rfl)
  · exact .codeUnit hcontrol
  · exact .plain hquote hbackslash (not_lt.mp hcontrol)

theorem readString_fourDigits {n : ℕ} (h : n < 0x20) (done rest : List Char) :
    readString done ('\\' :: 'u' :: (fourDigits n ++ rest)) =
      readString (Char.ofNat n :: done) rest := by
  interval_cases n <;> (rw [readString.eq_def]; rfl)

theorem skipString_fourDigits {n : ℕ} (h : n < 0x20) (rest : List Char) :
    skipString ('\\' :: 'u' :: (fourDigits n ++ rest)) = skipString rest := by
  interval_cases n <;> (rw [skipString.eq_def]; rfl)

namespace Spelt

theorem readString_append (h : Spelt c cs) (done rest : List Char) :
    readString done (cs ++ rest) = readString (c :: done) rest := by
  rcases h with ⟨hquote, hbackslash, hspace⟩ | ⟨hunit, hletter⟩ | hcontrol
  · rw [List.singleton_append, readString.eq_def]
    simp only [hquote, hbackslash, hspace.not_gt, if_false]
  · rw [List.cons_append, List.singleton_append, readString.eq_def]
    simp only [hunit, hletter, if_false, if_true]
    rfl
  · rw [List.cons_append, List.cons_append, readString_fourDigits hcontrol, Char.ofNat_toNat]

theorem skipString_append (h : Spelt c cs) (rest : List Char) :
    skipString (cs ++ rest) = skipString rest := by
  rcases h with ⟨hquote, hbackslash, hspace⟩ | ⟨hunit, hletter⟩ | hcontrol
  · rw [List.singleton_append, skipString.eq_def]
    simp only [hquote, hbackslash, hspace.not_gt, if_false]
  · rw [List.cons_append, List.singleton_append, skipString.eq_def]
    simp only [hunit, hletter, if_false, if_true, Option.isSome_some]
    rfl
  · rw [List.cons_append, List.cons_append, skipString_fourDigits hcontrol]

end Spelt

/-! ## Strings -/

theorem readString_string (done cs rest : List Char) :
    readString done (cs.flatMap stringChar ++ '"' :: rest) = .ok (done.reverse ++ cs) := by
  induction cs generalizing done with
  | nil =>
    rw [List.flatMap_nil, List.nil_append, readString.eq_def, List.append_nil]
    rfl
  | cons c cs ih =>
    rw [List.flatMap_cons, List.append_assoc, (spelt_stringChar c).readString_append, ih,
      List.reverse_cons, List.append_assoc, List.singleton_append]

theorem skipString_string (cs rest : List Char) :
    skipString (cs.flatMap stringChar ++ '"' :: rest) = .ok rest := by
  induction cs with
  | nil =>
    rw [List.flatMap_nil, List.nil_append, skipString.eq_def]
    rfl
  | cons c cs ih =>
    rw [List.flatMap_cons, List.append_assoc, (spelt_stringChar c).skipString_append, ih]

theorem tokens_quote (h : skipString cs = .ok rest) :
    tokens ('"' :: cs) = .text (readString [] cs) none :: tokens rest := by
  rw [tokens]
  simp +decide only [if_false, if_true]
  split
  · next f hf => rw [h] at hf; cases hf
  · next rest' hrest => rw [h] at hrest; cases hrest; rfl

theorem tokens_string (cs rest : List Char) :
    tokens (string cs ++ rest) = .text (.ok cs) none :: tokens rest := by
  rw [string, List.append_assoc, List.cons_append, List.singleton_append,
    tokens_quote (skipString_string cs rest), readString_string, List.reverse_nil, List.nil_append]

/-! ## Numbers -/

/-- What stands behind a member of an object or the value of a text. It ends a number. -/
def Ends (rest : List Char) : Prop :=
  ∀ c ∈ rest.head?, c = ',' ∨ c = '\x7d'

namespace Ends

theorem nil : Ends [] := fun _ h ↦ by cases h

theorem comma (cs : List Char) : Ends (',' :: cs) := by
  rintro c ⟨⟩
  exact Or.inl rfl

theorem endObject (cs : List Char) : Ends ('\x7d' :: cs) := by
  rintro c ⟨⟩
  exact Or.inr rfl

theorem isDigit_eq_false (h : Ends (c :: rest)) : c.isDigit = false := by
  rcases h c rfl with rfl | rfl <;> rfl

theorem scanDigits_append (h : Ends rest) {ds : List Char} (hne : ds ≠ [])
    (hds : ∀ c ∈ ds, c.isDigit) : scanDigits (ds ++ rest) = .ok (ds, rest) := by
  obtain ⟨d, ds, rfl⟩ := List.exists_cons_of_ne_nil hne
  rw [List.cons_append, scanDigits, if_pos (hds d List.mem_cons_self), ← List.cons_append,
    List.takeWhile_append_of_pos hds, List.dropWhile_append_of_pos hds]
  cases rest with
  | nil => simp
  | cons c rest => simp [h.isDigit_eq_false]

/-- A leading zero of a numeral stands alone. -/
theorem scanWhole_natural (h : Ends rest) (n : ℕ) :
    scanWhole (Text.natural n ++ rest) = .ok (Text.natural n, rest) := by
  have hne : Text.natural n ≠ [] := Nat.toDigits_ne_nil
  have hdigits := h.scanDigits_append hne fun c ↦ Text.isDigit_of_mem_natural
  rcases Nat.eq_zero_or_pos n with rfl | hpos
  · cases rest with
    | nil => exact hdigits
    | cons c rest => exact if_neg (by rw [h.isDigit_eq_false]; decide)
  · rw [scanWhole]
    · exact hdigits
    · intro c cs hcs
      obtain ⟨d, ds, hds⟩ := List.exists_cons_of_ne_nil hne
      rw [hds] at hcs
      refine Text.head?_natural_ne hpos ?_
      rw [hds, (List.cons.inj hcs).1, List.head?_cons]

theorem scanFraction_eq (h : Ends rest) : scanFraction rest = .ok ([], rest) := by
  rw [scanFraction]
  intro cs hcs
  rcases h '.' (by rw [hcs]; rfl) with hc | hc <;> exact absurd hc (by decide)

theorem scanExponent_eq (h : Ends rest) : scanExponent rest = .ok (none, rest) := by
  cases rest with
  | nil => rfl
  | cons c rest => rcases h c rfl with rfl | rfl <;> rfl

theorem scanNumber_natural (h : Ends rest) (n : ℕ) :
    scanNumber false (Text.natural n ++ rest) =
      .ok (⟨false, Text.natural n, [], none⟩, rest) := by
  simp only [scanNumber, h.scanWhole_natural, h.scanFraction_eq, h.scanExponent_eq]

end Ends

theorem tokens_digit (hc : c.isDigit) {n : NumberToken}
    (h : scanNumber false (c :: cs) = .ok (n, rest)) :
    tokens (c :: cs) = .number (.ok n) :: tokens rest := by
  rw [tokens]
  have hne : ∀ d, d.isDigit = false → c ≠ d := by
    rintro d hd rfl
    rw [hd] at hc
    cases hc
  have hspace : isSpace c = false := by
    simp [isSpace, hne ' ' rfl, hne '\n' rfl, hne '\t' rfl, hne '\r' rfl]
  simp only [hspace, hne '\x7b' rfl, hne '\x7d' rfl, hne '[' rfl, hne ']' rfl, hne ',' rfl,
    hne ':' rfl, hne '"' rfl, hne 'n' rfl, hne 't' rfl, hne 'f' rfl, hne '-' rfl, hc, if_false,
    if_true, Bool.false_eq_true]
  split
  · next f hf => rw [h] at hf; cases hf
  · next n' rest' hrest => rw [h] at hrest; cases hrest; rfl

/-! ## Values -/

/-- A text is cut into the given tokens, whatever stands behind it that ends a number. -/
def Spells (text : List Char) (ts : List Token) : Prop :=
  ∀ rest, Ends rest → tokens (text ++ rest) = ts ++ tokens rest

theorem spells_string (cs : List Char) : Spells (string cs) [.text (.ok cs) none] :=
  fun rest _ ↦ tokens_string cs rest

theorem spells_natural (n : ℕ) :
    Spells (natural n) [.number (.ok ⟨false, Text.natural n, [], none⟩)] := by
  intro rest hrest
  have hnumber := hrest.scanNumber_natural n
  have hne : Text.natural n ≠ [] := Nat.toDigits_ne_nil
  obtain ⟨d, ds, hds⟩ := List.exists_cons_of_ne_nil hne
  have hd : d.isDigit := Text.isDigit_of_mem_natural (hds ▸ List.mem_cons_self)
  rw [natural]
  rw [hds, List.cons_append] at hnumber ⊢
  rw [tokens_digit hd hnumber, List.singleton_append]

/-! ## Objects -/

theorem tokens_beginObject (cs : List Char) :
    tokens ('\x7b' :: cs) = .beginObject :: tokens cs := by
  rw [tokens]
  rfl

theorem tokens_endObject (cs : List Char) : tokens ('\x7d' :: cs) = .endObject :: tokens cs := by
  rw [tokens]
  rfl

theorem tokens_comma (cs : List Char) : tokens (',' :: cs) = .comma :: tokens cs := by
  rw [tokens]
  rfl

theorem tokens_colon (cs : List Char) : tokens (':' :: cs) = .colon :: tokens cs := by
  rw [tokens]
  rfl

/-- The tokens of a member, from its name and the tokens of its value. -/
def memberTokens (m : List Char × List Token) : List Token :=
  .text (.ok m.1) none :: .colon :: m.2

/-- The tokens of an object. -/
def objectTokens (members : List (List Char × List Token)) : List Token :=
  .beginObject :: [.comma].intercalate (members.map memberTokens) ++ [.endObject]

/-- A written member has the name and the tokens of the value. -/
def SpellsMember (m : List Char × List Char) (t : List Char × List Token) : Prop :=
  m.1 = t.1 ∧ Spells m.2 t.2

theorem SpellsMember.pair {m : List Char × List Char} {t : List Char × List Token}
    (h : SpellsMember m t) : Spells (pair m.1 m.2) (memberTokens t) := by
  intro rest hrest
  obtain ⟨hname, hvalue⟩ := h
  rw [Json.pair, List.append_assoc, tokens_string, List.cons_append, tokens_colon,
    hvalue rest hrest, hname]
  rfl

/-- Commas between texts are commas between their tokens. -/
theorem spells_intercalate {texts : List (List Char)} {tss : List (List Token)}
    (h : List.Forall₂ Spells texts tss) :
    Spells ([','].intercalate texts) ([.comma].intercalate tss) := by
  intro rest hrest
  induction h with
  | nil => rfl
  | @cons text ts texts tss htext htexts ih =>
    cases htexts with
    | nil => rw [List.intercalate_singleton, List.intercalate_singleton, htext rest hrest]
    | cons =>
      simp only [List.intercalate_cons_cons, List.append_assoc, List.cons_append, List.nil_append]
      rw [htext _ (.comma _), tokens_comma, ih]

theorem spells_object {members : List (List Char × List Char)}
    {values : List (List Char × List Token)} (h : List.Forall₂ SpellsMember members values) :
    Spells (object members) (objectTokens values) := by
  intro rest _
  have hpairs : List.Forall₂ Spells (members.map fun m ↦ pair m.1 m.2)
      (values.map memberTokens) := by
    rw [List.forall₂_map_left_iff, List.forall₂_map_right_iff]
    exact h.imp fun _ _ ↦ SpellsMember.pair
  rw [object, objectTokens, List.append_assoc, List.cons_append, List.singleton_append,
    tokens_beginObject, spells_intercalate hpairs _ (.endObject rest), tokens_endObject,
    List.append_assoc]
  rfl

end Lindenmayer.Json
