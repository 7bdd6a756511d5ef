import Lindenmayer.Proofs.Walk.Reached

/-!
# The outcome of a walk

A walk into a sink that takes every segment ends early exactly when some prefix of its operations
closes more branches than it opens, and it ends at the last operation of the shortest such prefix.
Otherwise its report and its record are counts: of the segments, of the steps with the pen up, and
of the open branches, now and at most.

Everything counted is a function of the operations so far, with no mention of places, so the
invariant `Tally` is a list of equations and a step changes each by one or not at all. The depth is
the exception: it moves only at the start of a branch, where the number of remembered poses is the
height of the operations.
-/

namespace Lindenmayer

open Op (height depth Legal)

namespace Op

theorem legal_iff_count {ops : List Op} :
    Legal ops ↔ ∀ u, u <+: ops → u.count .pop ≤ u.count .push := by
  refine forall₂_congr fun u _ ↦ ?_
  rw [height]
  omega

theorem depth_append_of_ne_push (ops : List Op) {op : Op} (hpush : op ≠ .push) :
    depth (ops ++ [op]) = depth ops := by
  have hle : height [op] ≤ 0 := by
    by_cases hpop : op = .pop
    · rw [hpop, height_pop]
      decide
    · rw [height_singleton hpush hpop]
  have hops : height ops ≤ depth ops := height_le_depth (List.prefix_refl ops)
  rw [depth_append_singleton, max_eq_left]
  rw [Int.toNat_le, height_append]
  omega

end Op

/-! ## What a state counts -/

/-- What a state counts, in terms of the operations that led to it. -/
structure Tally (ops : List Op) (s : State) (drawn : List Segment) : Prop where
  /-- One segment is drawn for each step with the pen down. -/
  drawn : drawn.length = ops.count .draw
  segments : s.segments = ops.count .draw
  moves : s.moves = ops.count .move
  maxDepth : s.maxDepth = depth ops

variable {t : Turtle} {ops : List Op} {s : State} {drawn : List Segment}

theorem Tally.step (h : Tally ops s drawn) (hheight : (s.branches.length : ℤ) = height ops)
    {op : Op} {a : Advance} (hstep : s.Step t op a) :
    Tally (ops ++ [op]) a.state (drawn ++ a.drawn.toList) := by
  obtain ⟨hdrawn, hsegments, hmoves, hdepth⟩ := h
  cases hstep with
  | push =>
    -- the one step that can go deeper, to one above the poses remembered so far
    refine ⟨by simp [hdrawn], by simp [hsegments], by simp [hmoves], ?_⟩
    rw [Op.depth_append_singleton, Op.height_append, Op.height_push, ← hheight, hdepth]
    rfl
  | draw _ | move _ | turn _ | pop _ | ignore =>
    refine ⟨by simp [hdrawn], by simp [hsegments, State.goTo], by simp [hmoves, State.goTo], ?_⟩
    exact hdepth.trans (Op.depth_append_of_ne_push ops (by simp)).symm

theorem Turtle.Reaches.tally (h : t.Reaches ops s drawn) : Tally ops s drawn := by
  induction h with
  | start => exact ⟨rfl, rfl, rfl, rfl⟩
  | step hops hstep ih => exact ih.step hops.length_branches hstep

/-! ## Where a walk ends -/

/-- The shortest prefix that closes too much is the one behind which a course stops. -/
theorem Op.isLeast_length_of_append_pop {u v : List Op} (hu : Legal u) (hlevel : height u = 0) :
    IsLeast {n | ∃ p, p <+: u ++ .pop :: v ∧ p.count .push < p.count .pop ∧ p.length = n}
      (u.length + 1) := by
  have hpre : u ++ [.pop] <+: u ++ .pop :: v := ⟨v, by simp⟩
  constructor
  · refine ⟨u ++ [.pop], hpre, ?_, by simp⟩
    have : height (u ++ [.pop]) = -1 := by rw [height_append, hlevel, height_pop]; rfl
    rw [height] at this
    omega
  · rintro n ⟨p, hp, hcount, rfl⟩
    by_contra hlt
    -- a prefix no longer than `u` is one of `u`, which is legal
    have hpu : p <+: u :=
      List.prefix_of_prefix_length_le hp (List.prefix_append u _) (by omega)
    exact absurd (legal_iff_count.mp hu p hpu) (by omega)

/-- **The outcome of a walk.** One list of segments is handed to every sink that takes them all. The
walk underflows exactly when some prefix of its operations closes more branches than it opens; then
it is at the last operation of the shortest one, a segment is drawn for each step with the pen down
before it, and nothing is recorded. Otherwise it is reported and recorded by its counts. -/
theorem Turtle.walk_outcome (t : Turtle) (hn : 0 < t.compass.directions) (word : List Char) :
    ∃ drawn : List Segment, ∀ (σ : Type) (sink : Sink σ), sink.Reliable → ∀ received : σ,
      (t.walk sink received word).received = (sink.emitAll received drawn).1 ∧
      ((∃ i, (t.walk sink received word).result = .error (.underflow i)) ↔
        ∃ u, u <+: t.operations word ∧ u.count .push < u.count .pop) ∧
      (∀ i, (t.walk sink received word).result = .error (.underflow i) →
        IsLeast {n | ∃ u, u <+: t.operations word ∧ u.count .push < u.count .pop ∧ u.length = n}
          (i + 1) ∧
        drawn.length = ((t.operations word).take i).count .draw ∧
        (t.walk sink received word).log = []) ∧
      ((∀ u, u <+: t.operations word → u.count .pop ≤ u.count .push) →
        ∃ (report : Report) (unclosed : ℕ),
          (t.walk sink received word).result = .ok report ∧
          report.segments = (t.operations word).count .draw ∧
          drawn.length = report.segments ∧
          report.moves = (t.operations word).count .move ∧
          IsGreatest {h : ℤ | ∃ u, u <+: t.operations word ∧ h = u.count .push - u.count .pop}
            report.maxDepth ∧
          (unclosed : ℤ) = (t.operations word).count .push - (t.operations word).count .pop ∧
          (t.walk sink received word).log =
            [.walked report.segments report.moves report.maxDepth unclosed]) := by
  refine ⟨(t.courseOf word).drawn, fun σ sink hsink received ↦ ?_⟩
  rw [walk_of_reliable t hsink]
  rcases course_cases hn (t.operations word) with
    ⟨s, drawn, hs, hcourse⟩ | ⟨u, v, s, drawn, hops, hu, hlevel, hcourse⟩
  · -- no prefix closes too much, and the last state has counted everything
    rw [courseOf, hcourse, Course.conclude]
    have hcount := Op.legal_iff_count.mp hs.legal
    have htally := hs.tally
    refine ⟨rfl, ⟨?_, ?_⟩, ?_, ?_⟩
    · rintro ⟨i, h⟩
      cases h
    · rintro ⟨u, hu, hlt⟩
      exact absurd (hcount u hu) (by omega)
    · intro i h
      cases h
    · intro _
      refine ⟨s.report, s.branches.length, rfl, htally.segments,
        htally.drawn.trans htally.segments.symm, htally.moves, ?_, hs.length_branches, rfl⟩
      rw [State.report, htally.maxDepth]
      exact Op.isGreatest_depth _
  · -- the state before the last operation has counted what was drawn
    rw [courseOf, hcourse, Course.conclude]
    have hleast : IsLeast {n | ∃ p, p <+: t.operations word ∧ p.count .push < p.count .pop ∧
        p.length = n} (u.length + 1) := by
      rw [hops]
      exact Op.isLeast_length_of_append_pop hu.legal hlevel
    obtain ⟨p, hp, hlt, -⟩ := hleast.1
    refine ⟨rfl, ⟨fun _ ↦ ⟨p, hp, hlt⟩, fun _ ↦ ⟨_, rfl⟩⟩, fun i h ↦ ?_, fun h ↦ ?_⟩
    · cases h
      refine ⟨hleast, ?_, rfl⟩
      rw [hops, List.take_left]
      exact hu.tally.drawn
    · exact absurd (h p hp) (by omega)

/-- A branch too many is closed behind a symbol of two bytes: the walk underflows at the index that
counts symbols, with one segment drawn. -/
theorem Turtle.walk_outcome_two_bytes :
    let t : Turtle := ⟨⟨4⟩, Turtle.defaultStep, .conventional⟩
    let word := "F[é]]F".toList
    0 < t.compass.directions ∧ Sink.collect.Reliable ∧
      (t.walk .collect #[] word).result = .error (.underflow 4) ∧
      (t.walk .collect #[] word).received.toList.length = 1 := by
  intro t word
  have hn : 0 < t.compass.directions := by decide
  obtain ⟨drawn, h⟩ := t.walk_outcome hn word
  obtain ⟨hreceived, hiff, hunder, -⟩ := h _ .collect Sink.reliable_collect #[]
  have hbad : t.operations word = [.draw, .push, .ignore, .pop, .pop, .draw] := by decide
  obtain ⟨i, hi⟩ := hiff.mpr ⟨(t.operations word).take 5, by decide, by decide⟩
  obtain ⟨hleast, hlength, -⟩ := hunder i hi
  have hle : i + 1 ≤ 5 := hleast.2 ⟨(t.operations word).take 5, by decide, by decide, by decide⟩
  obtain ⟨u, hu, hlt, hlen⟩ := hleast.1
  have heq : i = 4 := by
    -- a shorter prefix would be one of the first four operations, which are legal
    by_contra hne
    have hpre : u <+: [.draw, .push, .ignore, .pop] :=
      List.prefix_of_prefix_length_le hu (by decide) (by simp; omega)
    have hlegal : Op.Legal [.draw, .push, .ignore, .pop] := by decide
    exact absurd (Op.legal_iff_count.mp hlegal u hpre) (by omega)
  subst heq
  refine ⟨hn, Sink.reliable_collect, hi, ?_⟩
  rw [hreceived, Sink.fst_emitAll_collect, Array.toList_empty, List.nil_append, hlength]
  decide

end Lindenmayer
