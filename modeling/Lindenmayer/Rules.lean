/-!
# Production rules

A rule map gives some symbols a word to be replaced by. It is kept as the list of its rules in
increasing order of their symbols, without repetition, so that two maps with the same look-ups are
the same map and no order of insertion can be told from another.

There are two ways to add a rule: `insert` replaces the word of a symbol that has a rule,
`insertNew` leaves such a symbol alone.
-/

namespace Lindenmayer

/-- A string of symbols. -/
abbrev Word := List Char

/-- A finite map from symbols to words. -/
structure Rules where
  /-- The rules, by increasing symbol. -/
  entries : List (Char × Word)
  /-- No symbol has two rules, and the rules are in order. -/
  sorted : entries.Pairwise fun p q ↦ p.1 < q.1
deriving DecidableEq

namespace Rules

/-! ## Insertion into a sorted list -/

/-- Puts a rule in its place, instead of the rule of its symbol if there is one. -/
def insertEntry (c : Char) (w : Word) : List (Char × Word) → List (Char × Word)
  | [] => [(c, w)]
  | p :: rest =>
    if c = p.1 then (c, w) :: rest
    else if c < p.1 then (c, w) :: p :: rest
    else p :: insertEntry c w rest

private theorem fst_of_mem_insertEntry {c : Char} {w : Word} {l : List (Char × Word)}
    {p : Char × Word} (h : p ∈ insertEntry c w l) : p = (c, w) ∨ p ∈ l := by
  induction l with
  | nil => simpa [insertEntry] using h
  | cons q rest ih =>
    rw [insertEntry] at h
    split at h
    · rcases List.mem_cons.1 h with h | h
      · exact .inl h
      · exact .inr (List.mem_cons_of_mem _ h)
    · split at h
      · rcases List.mem_cons.1 h with h | h
        · exact .inl h
        · exact .inr h
      · rcases List.mem_cons.1 h with h | h
        · exact .inr (h ▸ List.mem_cons_self)
        · exact (ih h).imp id (List.mem_cons_of_mem _)

theorem pairwise_insertEntry (c : Char) (w : Word) {l : List (Char × Word)}
    (h : l.Pairwise fun p q ↦ p.1 < q.1) : (insertEntry c w l).Pairwise fun p q ↦ p.1 < q.1 := by
  induction l with
  | nil => simp [insertEntry]
  | cons p rest ih =>
    obtain ⟨hp, hrest⟩ := List.pairwise_cons.1 h
    rw [insertEntry]
    split
    · next heq => exact List.pairwise_cons.2 ⟨fun q hq ↦ heq ▸ hp q hq, hrest⟩
    · next hne =>
      split
      · next hlt =>
        refine List.pairwise_cons.2 ⟨fun q hq ↦ ?_, h⟩
        rcases List.mem_cons.1 hq with rfl | hq
        · exact hlt
        · exact Char.lt_trans hlt (hp q hq)
      · next hlt =>
        refine List.pairwise_cons.2 ⟨fun q hq ↦ ?_, ih hrest⟩
        rcases fst_of_mem_insertEntry hq with rfl | hq
        · rcases Char.le_total c p.1 with h' | h'
          · exact absurd (Char.le_antisymm h' (Char.not_lt.1 hlt)) hne
          · exact Char.not_le.1 fun h'' ↦ hne (Char.le_antisymm h'' h')
        · exact hp q hq

/-! ## Maps -/

/-- No symbol has a rule. -/
def empty : Rules := ⟨[], .nil⟩

instance : Inhabited Rules := ⟨empty⟩

/-- The word a symbol is replaced by, if it has a rule. -/
def find? (r : Rules) (c : Char) : Option Word :=
  r.entries.lookup c

/-- Whether a symbol has a rule. -/
def contains (r : Rules) (c : Char) : Bool :=
  (r.find? c).isSome

/-- The number of symbols with a rule. -/
def size (r : Rules) : Nat :=
  r.entries.length

/-- Gives a symbol a rule, instead of the one it may have. -/
def insert (r : Rules) (c : Char) (w : Word) : Rules :=
  ⟨insertEntry c w r.entries, pairwise_insertEntry c w r.sorted⟩

/-- Gives a symbol a rule unless it has one. -/
def insertNew (r : Rules) (c : Char) (w : Word) : Rules :=
  if r.contains c then r else r.insert c w

/-- The map of a list of rules, of which the last one of each symbol counts. -/
def ofList (rules : List (Char × Word)) : Rules :=
  rules.foldl (fun r p ↦ r.insert p.1 p.2) empty

/-! ## Look-ups -/

@[simp] theorem find?_empty (c : Char) : empty.find? c = none := rfl

private theorem lookup_cons_eq_if (c : Char) (p : Char × Word) (l : List (Char × Word)) :
    (p :: l).lookup c = if c = p.1 then some p.2 else l.lookup c := by
  obtain ⟨d, w⟩ := p
  by_cases h : c = d
  · subst h
    rw [List.lookup_cons_self, if_pos rfl]
  · rw [List.lookup_cons, beq_false_of_ne h, if_neg h]

private theorem lookup_insertEntry (c d : Char) (w : Word) (l : List (Char × Word)) :
    (insertEntry c w l).lookup d = if d = c then some w else l.lookup d := by
  induction l with
  | nil => simp [insertEntry, lookup_cons_eq_if]
  | cons p rest ih =>
    rw [insertEntry]
    split
    · next h =>
      by_cases hd : d = c <;> simp [lookup_cons_eq_if, hd, ← h]
    · next h =>
      split
      · simp [lookup_cons_eq_if]
      · by_cases hd : d = c
        · subst hd
          simp [lookup_cons_eq_if, ih, h]
        · simp [lookup_cons_eq_if, ih, hd]

@[simp] theorem find?_insert (r : Rules) (c d : Char) (w : Word) :
    (r.insert c w).find? d = if d = c then some w else r.find? d :=
  lookup_insertEntry c d w r.entries

/-- A new rule is found unless its symbol had one, and every other one stays. -/
theorem find?_insertNew (r : Rules) (c d : Char) (w : Word) :
    (r.insertNew c w).find? d = if d = c then some ((r.find? c).getD w) else r.find? d := by
  unfold insertNew contains
  by_cases hd : d = c
  · subst hd
    cases h : r.find? d <;> simp [h]
  · cases h : r.find? c <;> simp [hd]

private theorem lookup_eq_none_of_forall_lt {l : List (Char × Word)} {c : Char}
    (h : ∀ p ∈ l, c < p.1) : l.lookup c = none := by
  induction l with
  | nil => rfl
  | cons p rest ih =>
    have hne : c ≠ p.1 := fun he ↦ absurd (he ▸ h p List.mem_cons_self) (Char.lt_irrefl _)
    rw [lookup_cons_eq_if, if_neg hne]
    exact ih fun q hq ↦ h q (List.mem_cons_of_mem _ hq)

private theorem not_fst_lt_of_lookup {p q : Char × Word} {l m : List (Char × Word)}
    (hq : ∀ r ∈ m, q.1 < r.1) (h : ∀ c, (p :: l).lookup c = (q :: m).lookup c) : ¬p.1 < q.1 := by
  intro hlt
  have hne : p.1 ≠ q.1 := fun he ↦ absurd (he ▸ hlt) (Char.lt_irrefl _)
  have := h p.1
  rw [lookup_cons_eq_if, if_pos rfl, lookup_cons_eq_if, if_neg hne,
    lookup_eq_none_of_forall_lt fun r hr ↦ Char.lt_trans hlt (hq r hr)] at this
  simp at this

private theorem entries_eq_of_lookup {l m : List (Char × Word)}
    (hl : l.Pairwise fun p q ↦ p.1 < q.1) (hm : m.Pairwise fun p q ↦ p.1 < q.1)
    (h : ∀ c, l.lookup c = m.lookup c) : l = m := by
  induction l generalizing m with
  | nil =>
    cases m with
    | nil => rfl
    | cons q m => simpa [lookup_cons_eq_if] using h q.1
  | cons p l ih =>
    cases m with
    | nil => simpa [lookup_cons_eq_if] using h p.1
    | cons q m =>
      obtain ⟨hp, hl'⟩ := List.pairwise_cons.1 hl
      obtain ⟨hq, hm'⟩ := List.pairwise_cons.1 hm
      have key : p.1 = q.1 := Char.le_antisymm
        (Char.not_lt.1 (not_fst_lt_of_lookup hp fun c ↦ (h c).symm))
        (Char.not_lt.1 (not_fst_lt_of_lookup hq h))
      have val : p.2 = q.2 := by simpa [lookup_cons_eq_if, key] using h q.1
      have hpq : p = q := Prod.ext key val
      subst hpq
      refine congrArg _ (ih hl' hm' fun c ↦ ?_)
      by_cases hc : c = p.1
      · subst hc
        rw [lookup_eq_none_of_forall_lt hp, lookup_eq_none_of_forall_lt hq]
      · simpa [lookup_cons_eq_if, hc] using h c

/-- Maps with the same look-ups are the same. -/
theorem ext_find? {r s : Rules} (h : ∀ c, r.find? c = s.find? c) : r = s := by
  cases r with
  | mk l hl =>
    cases s with
    | mk m hm =>
      have := entries_eq_of_lookup hl hm h
      subst this
      rfl

end Rules

end Lindenmayer
