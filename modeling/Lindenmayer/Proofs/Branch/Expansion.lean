import Lindenmayer.Proofs.Derivation.Descent
import Lindenmayer.Proofs.Walk.Outcome

/-!
# Branches in expansions

Rules keep branches together when they replace symbols that are no brackets, and replace them by
words that are balanced. A pass by such rules splices balanced words into a word, at any depth, and
leaves its own brackets where they are. So a prefix of the new word is never lower than some prefix
of the old one, and never higher than that prefix by more than the deepest replacement.

Balance and depth of all generations follow: a balanced start stays balanced, its depth grows by at
most one replacement in each pass, and no generation makes a turtle underflow.
-/

namespace Lindenmayer

open Op (height Balanced Legal)

namespace Rules

variable (r : Rules) (l : Lexicon)

/-- Rules that keep branches together, in the reading of a lexicon. -/
structure KeepsBranches : Prop where
  /-- What a symbol is replaced by opens and closes its own branches only. -/
  balanced : ∀ c w, r.find? c = some w → Balanced (w.map l)
  /-- A symbol that is replaced neither opens nor closes a branch itself. -/
  no_bracket : ∀ c w, r.find? c = some w → l c ≠ .push ∧ l c ≠ .pop

/-- The greatest depth of a replacement; without rules it is zero. -/
def depth : ℕ := (r.entries.map fun e ↦ Op.depth (e.2.map l)).foldr max 0

variable {r l}

theorem mem_entries_of_find? {c : Char} {w : Word} (h : r.find? c = some w) :
    (c, w) ∈ r.entries := by
  obtain ⟨u, v, hentries, -⟩ := List.lookup_eq_some_iff.mp h
  rw [hentries]
  simp

theorem depth_le_of_find? {c : Char} {w : Word} (h : r.find? c = some w) :
    Op.depth (w.map l) ≤ r.depth l :=
  Op.foldr_max_le_iff.mp (le_refl (r.depth l)) _ (List.mem_map_of_mem (mem_entries_of_find? h))

/-- The form in which rules are checked: one test for each of them. -/
theorem KeepsBranches.of_entries
    (h : ∀ e ∈ r.entries, Balanced (e.2.map l) ∧ l e.1 ≠ .push ∧ l e.1 ≠ .pop) :
    r.KeepsBranches l where
  balanced c w hc := (h (c, w) (mem_entries_of_find? hc)).1
  no_bracket c w hc := (h (c, w) (mem_entries_of_find? hc)).2

/-! ## One pass -/

theorem map_replace_cons (c : Char) (w : Word) :
    (r.replace (c :: w)).map l = (r.image c).map l ++ (r.replace w).map l := by
  rw [replace, List.flatMap_cons, List.map_append, replace]

theorem KeepsBranches.height_image (h : r.KeepsBranches l) (c : Char) :
    height ((r.image c).map l) = height [l c] := by
  cases hc : r.find? c with
  | none => rw [image_of_find?_eq_none r hc, List.map_singleton]
  | some w =>
    obtain ⟨hpush, hpop⟩ := h.no_bracket c w hc
    rw [image_of_find?_eq_some r hc, (h.balanced c w hc).level, Op.height_singleton hpush hpop]

theorem KeepsBranches.height_replace (h : r.KeepsBranches l) (w : Word) :
    height ((r.replace w).map l) = height (w.map l) := by
  induction w with
  | nil => rfl
  | cons c w ih =>
    rw [map_replace_cons, Op.height_append, h.height_image, ih, List.map_cons,
      Op.height_cons (l c) (w.map l)]

theorem KeepsBranches.exists_prefix_of_image (h : r.KeepsBranches l) {c : Char} {p : List Op}
    (hp : p <+: (r.image c).map l) :
    ∃ u, u <+: [l c] ∧ height u ≤ height p ∧ height p ≤ height u + r.depth l := by
  cases hc : r.find? c with
  | none =>
    -- the symbol may be a bracket, and is left alone
    rw [image_of_find?_eq_none r hc, List.map_singleton] at hp
    exact ⟨p, hp, le_refl _, by omega⟩
  | some w =>
    rw [image_of_find?_eq_some r hc] at hp
    have hlow : 0 ≤ height p := (h.balanced c w hc).legal p hp
    have hhigh : height p ≤ Op.depth (w.map l) := Op.height_le_depth hp
    have hdepth : Op.depth (w.map l) ≤ r.depth l := depth_le_of_find? hc
    refine ⟨[], List.nil_prefix, ?_, ?_⟩
    · rwa [Op.height_nil]
    · rw [Op.height_nil]
      omega

/-- **The heights of a pass.** Every prefix of the new word has a prefix of the old one below it, at
most by the depth of the rules. The induction is on the old word, whose first symbol either holds
the whole prefix in its replacement or is behind it. -/
theorem KeepsBranches.exists_prefix_of_replace (h : r.KeepsBranches l) {w : Word} {p : List Op}
    (hp : p <+: (r.replace w).map l) :
    ∃ u, u <+: w.map l ∧ height u ≤ height p ∧ height p ≤ height u + r.depth l := by
  induction w generalizing p with
  | nil =>
    rw [List.prefix_nil.mp hp]
    exact ⟨[], List.nil_prefix, le_refl _, by omega⟩
  | cons c w ih =>
    rw [map_replace_cons] at hp
    rw [List.map_cons]
    rcases Op.prefix_append_iff.mp hp with hp | ⟨q, hq, rfl⟩
    · obtain ⟨u, hu, hlow, hhigh⟩ := h.exists_prefix_of_image hp
      exact ⟨u, hu.trans (List.prefix_append [l c] _), hlow, hhigh⟩
    · obtain ⟨u, hu, hlow, hhigh⟩ := ih hq
      refine ⟨l c :: u, (List.prefix_cons_inj _).mpr hu, ?_, ?_⟩
      · rw [Op.height_append, h.height_image, Op.height_cons (l c) u]
        omega
      · rw [Op.height_append, h.height_image, Op.height_cons (l c) u]
        omega

theorem KeepsBranches.balanced_replace (h : r.KeepsBranches l) {w : Word}
    (hw : Balanced (w.map l)) : Balanced ((r.replace w).map l) where
  legal := by
    intro p hp
    obtain ⟨u, hu, hlow, -⟩ := h.exists_prefix_of_replace hp
    exact (hw.legal u hu).trans hlow
  level := (h.height_replace w).trans hw.level

theorem KeepsBranches.depth_replace_le (h : r.KeepsBranches l) (w : Word) :
    Op.depth ((r.replace w).map l) ≤ Op.depth (w.map l) + r.depth l := by
  refine Op.depth_le_iff.mpr fun p hp ↦ ?_
  obtain ⟨u, hu, -, hhigh⟩ := h.exists_prefix_of_replace hp
  have hdepth := Op.height_le_depth hu
  push_cast
  omega

/-! ## All generations -/

theorem KeepsBranches.balanced_iterate (h : r.KeepsBranches l) {w : Word}
    (hw : Balanced (w.map l)) (passes : ℕ) : Balanced ((r.replace^[passes] w).map l) := by
  induction passes with
  | zero => exact hw
  | succ passes ih =>
    rw [Function.iterate_succ_apply']
    exact h.balanced_replace ih

theorem KeepsBranches.depth_iterate_le (h : r.KeepsBranches l) (w : Word) (passes : ℕ) :
    Op.depth ((r.replace^[passes] w).map l) ≤ Op.depth (w.map l) + passes * r.depth l := by
  induction passes with
  | zero => simp
  | succ passes ih =>
    rw [Function.iterate_succ_apply']
    calc Op.depth ((r.replace (r.replace^[passes] w)).map l)
        ≤ Op.depth ((r.replace^[passes] w).map l) + r.depth l := h.depth_replace_le _
      _ ≤ Op.depth (w.map l) + passes * r.depth l + r.depth l := by gcongr
      _ = Op.depth (w.map l) + (passes + 1) * r.depth l := by ring

end Rules

/-! ## Walks along expansions -/

theorem Turtle.walk_of_balanced {σ : Type} {t : Turtle} (hn : 0 < t.compass.directions)
    {word : List Char} (hbal : Balanced (t.operations word)) (sink : Sink σ) (received : σ) :
    (∃ report, (t.walk sink received word).result = .ok report ∧
        report.maxDepth = Op.depth (t.operations word) ∧
        (t.walk sink received word).log =
          [.walked report.segments report.moves report.maxDepth 0]) ∨
      ∃ failure, (t.walk sink received word).result = .error (.sink failure) := by
  obtain ⟨s, drawn, hs⟩ := t.exists_reaches_of_legal hn hbal.legal
  rw [walk_eq_conclude, courseOf, hs.course_eq]
  rcases sink.feed received drawn with ⟨received, failure | failure⟩
  · have hclosed : s.branches.length = 0 :=
      Int.ofNat_inj.mp (hs.length_branches.trans hbal.level)
    have hevent : s.event = .walked s.segments s.moves s.maxDepth 0 := by
      rw [State.event, hclosed]
    exact Or.inl ⟨s.report, rfl, hs.tally.maxDepth, congrArg (fun e ↦ [e]) hevent⟩
  · exact Or.inr ⟨failure, rfl⟩

/-- **Balanced grammars never underflow.** From a balanced start and by rules that keep branches
together, every generation is balanced. No walk along it underflows, whatever its sink does; one
that comes to its end has closed all its branches, and was in no more of them at once than the start
and one replacement for each pass can open. -/
theorem Turtle.walk_expand_of_keepsBranches (t : Turtle) (r : Rules) (start : Word)
    (hstart : Balanced (start.map t.lexicon)) (hr : r.KeepsBranches t.lexicon) (generation : Int)
    (hgeneration : 1 ≤ generation) :
    ∃ word, (r.expand start generation).value = .ok word ∧ Balanced (word.map t.lexicon) ∧
      (0 < t.compass.directions → ∀ (σ : Type) (sink : Sink σ) (received : σ),
        (∀ i, (t.walk sink received word).result ≠ .error (.underflow i)) ∧
        ((∃ report, (t.walk sink received word).result = .ok report) ∨
          ∃ failure, (t.walk sink received word).result = .error (.sink failure)) ∧
        ∀ report, (t.walk sink received word).result = .ok report →
          (t.walk sink received word).log =
            [.walked report.segments report.moves report.maxDepth 0] ∧
          report.maxDepth ≤
            Op.depth (start.map t.lexicon) + (generation - 1).toNat * r.depth t.lexicon) := by
  have hbal := hr.balanced_iterate hstart (generation - 1).toNat
  refine ⟨_, r.value_expand hgeneration, hbal, fun hn σ sink received ↦ ?_⟩
  rcases walk_of_balanced hn hbal sink received with
    ⟨report, hresult, hdepth, hlog⟩ | ⟨failure, hresult⟩
  · refine ⟨?_, Or.inl ⟨report, hresult⟩, ?_⟩
    · intro i h
      rw [hresult] at h
      cases h
    · intro report' h
      rw [hresult] at h
      cases h
      exact ⟨hlog, hdepth.trans_le (hr.depth_iterate_le start _)⟩
  · refine ⟨?_, Or.inr ⟨failure, hresult⟩, ?_⟩
    · intro i h
      rw [hresult] at h
      cases h
    · intro report h
      rw [hresult] at h
      cases h

/-- A branch that branches: in each pass it opens one more branch at its innermost place, so that
the bound on the depth is met. -/
theorem Turtle.walk_expand_of_keepsBranches_innermost :
    let t : Turtle := ⟨⟨4⟩, Turtle.defaultStep, .conventional⟩
    let r := Rules.ofList [('X', "F[+X]-X".toList)]
    let start : Word := "[X]".toList
    let word : Word := "[F[+F[+X]-X]-F[+X]-X]".toList
    let walk := t.walk .collect #[] word
    Balanced (start.map t.lexicon) ∧ r.KeepsBranches t.lexicon ∧ (1 : Int) ≤ 3 ∧
      (r.expand start 3).value = .ok word ∧ 0 < t.compass.directions ∧
      walk.result.map Report.maxDepth = .ok 3 ∧ walk.log = [.walked 3 0 3 0] ∧
      (∀ i, walk.result ≠ .error (.underflow i)) ∧
      ∀ report, walk.result = .ok report → report.maxDepth ≤ 1 + 2 * 1 := by
  intro t r start word walk
  have hstart : Balanced (start.map t.lexicon) := by decide
  have hr : r.KeepsBranches t.lexicon := .of_entries (by decide)
  have hword : (r.expand start 3).value = .ok word := rfl
  have hmax : walk.result.map Report.maxDepth = .ok 3 := by decide
  have hlog : walk.log = [.walked 3 0 3 0] := by decide
  obtain ⟨word', hvalue, -, hwalk⟩ := t.walk_expand_of_keepsBranches r start hstart hr 3 (by decide)
  rw [hword] at hvalue
  cases hvalue
  obtain ⟨hunder, -, hreport⟩ := hwalk (by decide) _ .collect #[]
  have hdepth : Op.depth (start.map t.lexicon) = 1 ∧ r.depth t.lexicon = 1 := by decide
  refine ⟨hstart, hr, by decide, hword, by decide, hmax, hlog, hunder, fun report h ↦ ?_⟩
  have hle := (hreport report h).2
  rwa [hdepth.1, hdepth.2] at hle

end Lindenmayer
