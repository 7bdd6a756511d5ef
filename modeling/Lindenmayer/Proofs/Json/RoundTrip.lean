import Lindenmayer.Json.Grammar
import Lindenmayer.Proofs.Json.Spelling
import Lindenmayer.Proofs.Source.RoundTrip

/-!
# Grammars as JSON texts

A grammar survives being written as JSON and read again, whatever characters its symbols and words
are made of, whatever its number of directions, and in whatever order its rules are written.

## Readers and tokens

What a reader makes of a value does not depend on what stands behind it. So a reader is described by
the tokens of one value alone, and an object by what each of its members does to the state that is
being built. The rules of a map are put into an empty map one after another; no symbol comes twice,
so each stays, and their order leaves no trace.
-/

namespace Lindenmayer

open Json (Reader Token Quantity)

namespace Json.Reader

variable {α β σ : Type}

/-- A reader takes the tokens of a value and leaves what stands behind them. -/
def Reads (read : Reader α) (ts : List Token) (a : α) : Prop :=
  ∀ rest, read (ts ++ rest) = .ok (a, rest)

theorem bind_of_eq {read : Reader α} {ts rest : List Token} {a : α} (h : read ts = .ok (a, rest))
    (next : α → Reader β) : (read >>= next) ts = next a rest := by
  change (read ts >>= fun p ↦ next p.1 p.2) = next a rest
  rw [h]
  rfl

/-! ## Strings and numbers -/

theorem reads_text (cs : List Char) : Reads text [.text (.ok cs) none] cs := fun _ ↦ rfl

theorem quantity_natural (n : UInt64) :
    NumberToken.quantity ⟨false, Text.natural n.toNat, [], none⟩ = .ok (.natural n) := by
  have hvalue : Nat.ofDigitChars 10 (Text.natural n.toNat) 0 = n.toNat :=
    Nat.ofDigitChars_ten_toDigits
  have hlt : n.toNat < UInt64.size := n.toNat_lt
  simp only [NumberToken.quantity, hvalue, hlt, UInt64.ofNat_toNat]
  rfl

theorem reads_natural (n : UInt64) :
    Reads natural [.number (.ok ⟨false, Text.natural n.toNat, [], none⟩)] n := by
  intro rest
  have hquantity : quantity ([.number (.ok ⟨false, Text.natural n.toNat, [], none⟩)] ++ rest) =
      .ok (.natural n, rest) := by
    rw [List.singleton_append, quantity, quantity_natural]
    rfl
  exact bind_of_eq hquantity _

/-! ## Objects -/

/-- The members of an object take a state to another one, each by what its reader does. -/
inductive Folds (member : List Char → σ → Reader σ) :
    σ → List (List Char × List Token) → σ → Prop
  | nil (s : σ) : Folds member s [] s
  | cons {s s' t : σ} {name : List Char} {ts : List Token}
      {members : List (List Char × List Token)} :
      Reads (member name s) (.colon :: ts) s' → Folds member s' members t →
        Folds member s ((name, ts) :: members) t

variable {member : List Char → σ → Reader σ} {s s' t : σ} {name : List Char} {ts : List Token}
  {members : List (List Char × List Token)}

theorem membersFrom_append (h : Reads (member name s) (.colon :: ts) s') (bound : ℕ)
    (rest : List Token) :
    membersFrom member (bound + 1) true s (memberTokens (name, ts) ++ rest) =
      membersFrom member bound false s' rest := by
  have hname : Reader.name (memberTokens (name, ts) ++ rest) = .ok (name, .colon :: ts ++ rest) :=
    rfl
  refine (bind_of_eq hname _).trans ?_
  rw [bind_of_eq (h rest)]

theorem membersFrom_comma (bound : ℕ) (m : List Char × List Token) (others : List (List Token))
    (rest : List Token) :
    membersFrom member (bound + 1) false s
        (.comma :: ([.comma].intercalate (memberTokens m :: others) ++ rest)) =
      membersFrom member (bound + 1) true s
        ([.comma].intercalate (memberTokens m :: others) ++ rest) := by
  rw [memberTokens, List.intercalate_cons_cons_left]
  rfl

/-- Any bound above the number of members does. -/
theorem Folds.membersFrom_eq (h : Folds member s members t) (k : ℕ) (rest : List Token) :
    membersFrom member (members.length + k + 1) true s
      ([.comma].intercalate (members.map memberTokens) ++ .endObject :: rest) = .ok (t, rest) := by
  induction h with
  | nil s => rfl
  | @cons s s' t name ts members hmember hmembers ih =>
    rw [List.length_cons, Nat.add_right_comm members.length 1 k]
    cases hmembers with
    | nil =>
      rw [List.map_singleton, List.intercalate_singleton, membersFrom_append hmember]
      rfl
    | cons =>
      rw [List.map_cons, List.map_cons, List.intercalate_cons_cons, List.append_assoc,
        List.append_assoc, membersFrom_append hmember]
      exact (membersFrom_comma _ _ _ _).trans ih

theorem length_le_length_intercalate {α : Type} (sep : List α) {lists : List (List α)}
    (h : ∀ l ∈ lists, l ≠ []) : lists.length ≤ (sep.intercalate lists).length := by
  induction lists with
  | nil => exact Nat.zero_le _
  | cons l lists ih =>
    obtain ⟨hl, hlists⟩ := List.forall_mem_cons.mp h
    have hpos := List.length_pos_of_ne_nil hl
    cases lists with
    | nil => simpa using Nat.succ_le_of_lt hpos
    | cons l' lists =>
      have hrest := ih hlists
      rw [List.intercalate_cons_cons, List.length_append, List.length_append, List.length_cons]
      omega

theorem Folds.reads_object (h : Folds member s members t) :
    Reads (object member s) (objectTokens members) t := by
  intro rest
  have hlength : members.length ≤
      ([.comma].intercalate (members.map memberTokens) : List Token).length := by
    rw [← List.length_map (f := memberTokens)]
    refine length_le_length_intercalate _ fun ts hts ↦ ?_
    obtain ⟨m, -, rfl⟩ := List.mem_map.mp hts
    exact List.cons_ne_nil _ _
  rw [objectTokens, List.append_assoc, List.cons_append, List.singleton_append, object]
  obtain ⟨k, hk⟩ := Nat.exists_eq_add_of_le hlength
  rw [List.length_append, hk, Nat.add_assoc members.length]
  exact h.membersFrom_eq _ rest

/-! ## Records -/

theorem Reads.map {read : Reader α} {ts : List Token} {a : α} (h : Reads read ts a) (f : α → β) :
    Reads (do return f (← read)) ts (f a) :=
  fun rest ↦ bind_of_eq (h rest) _

variable {fields : List (Slot σ)} {f : Slot σ} {complete? : σ → Option α} {a : α}

theorem Reads.slot (h : Reads (f.read s) ts s')
    (hfield : fields.find? (fun f ↦ f.name.toList == name) = some f) (hnew : f.isRead s = false) :
    Reads (Reader.member fields name s) (.colon :: ts) s' := by
  intro rest
  rw [Reader.member, hfield]
  simp only [hnew, Bool.false_eq_true, if_false]
  have hcolon : colon (.colon :: ts ++ rest) = .ok ((), ts ++ rest) := rfl
  rw [bind_of_eq hcolon, h rest]

theorem Folds.reads_record (h : Folds (Reader.member fields) s members t)
    (hcomplete : complete? t = some a) :
    Reads (record fields s complete?) (objectTokens members) a := by
  intro rest
  refine (bind_of_eq (h.reads_object rest) _).trans ?_
  rw [record.finish, hcomplete]
  rfl

end Json.Reader

open Json.Reader (Reads Folds)

/-! ## Rule maps -/

namespace Rules

variable {r : Rules} {entries : List (Char × Word)}

theorem find?_foldl_insert (r : Rules) (entries : List (Char × Word)) (c : Char) :
    (entries.foldl (fun r p ↦ r.insert p.1 p.2) r).find? c =
      (entries.reverse.lookup c).or (r.find? c) := by
  induction entries generalizing r with
  | nil => rfl
  | cons p entries ih =>
    rw [List.foldl_cons, ih, find?_insert, List.reverse_cons, List.lookup_append, Option.or_assoc]
    congr 1
    by_cases hc : c = p.1
    · rw [if_pos hc, List.lookup_cons, hc, beq_self_eq_true]
      rfl
    · rw [if_neg hc, List.lookup_cons, beq_false_of_ne hc]
      rfl

theorem ofList_perm (h : entries.Perm r.entries) : ofList entries = r := by
  have hperm : entries.reverse.Perm r.entries := entries.reverse_perm.trans h
  have hnodup : (entries.reverse.map Prod.fst).Nodup :=
    (hperm.map _).nodup_iff.mpr r.nodup_symbols
  refine ext_find? fun c ↦ Option.ext fun w ↦ ?_
  rw [ofList, find?_foldl_insert, find?_empty, Option.or_none, lookup_eq_some_iff_mem hnodup,
    find?_eq_some_iff_mem]
  exact hperm.mem_iff

/-- The tokens of a rule, as a member of its map. -/
def jsonMember (p : Char × Word) : List Char × List Token :=
  ([p.1], [.text (.ok p.2) none])

theorem folds_ruleFromJson (r : Rules) (entries : List (Char × Word)) :
    Folds ruleFromJson r (entries.map jsonMember)
      (entries.foldl (fun r p ↦ r.insert p.1 p.2) r) := by
  induction entries generalizing r with
  | nil => exact .nil r
  | cons p entries ih => exact .cons (fun rest ↦ rfl) (ih (r.insert p.1 p.2))

theorem reads_fromJson (entries : List (Char × Word)) :
    Reads fromJson (Json.objectTokens (entries.map jsonMember)) (ofList entries) :=
  (folds_ruleFromJson empty entries).reads_object

theorem spells_entriesToJson (entries : List (Char × Word)) :
    Json.Spells (entriesToJson entries) (Json.objectTokens (entries.map jsonMember)) := by
  refine Json.spells_object ?_
  rw [List.forall₂_map_left_iff, List.forall₂_map_right_iff]
  exact List.forall₂_same.mpr fun p _ ↦ ⟨rfl, Json.spells_string p.2⟩

end Rules

/-! ## Grammars -/

namespace Grammar

/-- The members of a grammar with its rules in the given order, and their tokens. -/
def members (g : Grammar) (entries : List (Char × Word)) : List (List Char × List Json.Token) :=
  [("direction_count".toList, [.number (.ok ⟨false, Text.natural g.directions.toNat, [], none⟩)]),
    ("rules".toList, Json.objectTokens (entries.map Rules.jsonMember)),
    ("axiom".toList, [.text (.ok g.start) none])]

theorem spells_toJsonWith (g : Grammar) (entries : List (Char × Word)) :
    Json.Spells (g.toJsonWith entries) (Json.objectTokens (g.members entries)) :=
  Json.spells_object <| .cons ⟨rfl, Json.spells_natural _⟩ <|
    .cons ⟨rfl, Rules.spells_entriesToJson entries⟩ <| .cons ⟨rfl, Json.spells_string _⟩ .nil

theorem reads_fromJson (g : Grammar) (entries : List (Char × Word)) :
    Reads fromJson (Json.objectTokens (g.members entries))
      ⟨g.directions, Rules.ofList entries, g.start⟩ := by
  refine Folds.reads_record (t := ⟨g.directions, Rules.ofList entries, g.start⟩) ?_ rfl
  refine .cons (((Json.Reader.reads_natural _).map _).slot rfl rfl) ?_
  refine .cons (((Rules.reads_fromJson entries).map _).slot rfl rfl) ?_
  exact .cons (((Json.Reader.reads_text _).map _).slot rfl rfl) (.nil _)

/-- **Grammars survive JSON.** What is written for a grammar, with its rules in any order, is read
as the grammar. -/
theorem ofJson_toJsonWith (g : Grammar) {entries : List (Char × Word)}
    (h : entries.Perm g.rules.entries) : ofJson (g.toJsonWith entries) = .ok g := by
  have htokens := g.spells_toJsonWith entries [] .nil
  have hread := g.reads_fromJson entries (Json.tokens [])
  rw [List.append_nil] at htokens
  rw [Rules.ofList_perm h] at hread
  have hnil : Json.tokens [] = [] := by rw [Json.tokens]
  rw [ofJson, Json.Reader.run, htokens, hread, hnil]

/-- Symbols that are escaped, an empty word, characters beyond 16 bits, the greatest number of
directions, and rules that are not in the order of their symbols. -/
theorem ofJson_toJsonWith_escapes :
    let entries : List (Char × Word) :=
      [('😀', []), ('"', ['\\', '\x1f']), ('\x00', ['"', 'é'])]
    let g : Grammar := ⟨0xFFFFFFFFFFFFFFFF, Rules.ofList entries, ['\n', '𝄞']⟩
    entries.Perm g.rules.entries ∧ entries ≠ g.rules.entries ∧
      g.toJsonWith entries = ("\x7b\"direction_count\":18446744073709551615,\"rules\":\x7b" ++
        "\"😀\":\"\",\"\\\"\":\"\\\\\\u001f\",\"\\u0000\":\"\\\"é\"\x7d," ++
        "\"axiom\":\"\\n𝄞\"\x7d").toList ∧
      ofJson (g.toJsonWith entries) = .ok g := by
  intro entries g
  have hperm : entries.Perm g.rules.entries := by decide +kernel
  exact ⟨hperm, by decide +kernel, by decide +kernel, ofJson_toJsonWith g hperm⟩

end Grammar

end Lindenmayer
