import Lindenmayer.Proofs.Branch.Height
import Lindenmayer.Proofs.Turn
import Lindenmayer.Proofs.Walk.Course

/-!
# Reached states

The recursion of a course goes forwards, from a state to the operations that are left. Invariants
look backwards, from a state to the operations that led to it, and are proved by induction along
`Turtle.Reaches`, which adds operations at the end. The two directions meet in
`Reaches.course_append`; behind it no proof opens the recursion of a course again.

Two invariants belong here, since every account of a walk needs them. All headings are on the
compass, those of remembered poses included, so that no look-up fails; and there are as many
remembered poses as the operations so far are high. Together they say how a course can end:
`Turtle.course_cases`.
-/

namespace Lindenmayer

open Op (height Legal)

/-- The states that operations lead to from the start, with the segments drawn on the way. -/
inductive Turtle.Reaches (t : Turtle) : List Op → State → List Segment → Prop
  | start : Reaches t [] State.start []
  | step {ops : List Op} {s : State} {drawn : List Segment} {op : Op} {a : Advance} :
      Reaches t ops s drawn → s.Step t op a →
        Reaches t (ops ++ [op]) a.state (drawn ++ a.drawn.toList)

variable {t : Turtle} {ops : List Op} {s : State} {drawn : List Segment}

theorem Turtle.Reaches.course_append (h : t.Reaches ops s drawn) (rest : List Op) :
    t.course 0 (ops ++ rest) State.start =
      ⟨drawn ++ (t.course ops.length rest s).drawn, (t.course ops.length rest s).outcome⟩ := by
  induction h generalizing rest with
  | start => rfl
  | @step ops s drawn op a _ hstep ih =>
    rw [List.append_assoc, List.singleton_append, ih, Turtle.course, hstep.apply_eq_ok,
      List.length_append, List.length_singleton, List.append_assoc]

theorem Turtle.Reaches.course_eq (h : t.Reaches ops s drawn) :
    t.course 0 ops State.start = ⟨drawn, .ok s⟩ := by
  have hcourse := h.course_append []
  rwa [List.append_nil, course, List.append_nil] at hcourse

theorem Turtle.Reaches.exists_step {op : Op} (h : t.Reaches (ops ++ [op]) s drawn) :
    ∃ s' drawn' a, t.Reaches ops s' drawn' ∧ s'.Step t op a ∧
      s = a.state ∧ drawn = drawn' ++ a.drawn.toList := by
  generalize hops : ops ++ [op] = all at h
  cases h with
  | start => exact absurd hops (List.append_ne_nil_of_right_ne_nil _ (List.cons_ne_nil _ _))
  | @step ops' s' drawn' op' a hreach hstep =>
    obtain ⟨rfl, hop⟩ := List.append_inj' hops rfl
    cases hop
    exact ⟨s', drawn', a, hreach, hstep, rfl, rfl⟩

/-- What holds at the start and is kept by each symbol holds of all states that words lead to. -/
@[elab_as_elim]
theorem Turtle.Reaches.word_induction {motive : List Char → State → List Segment → Prop}
    (start : motive [] State.start [])
    (step : ∀ {word : List Char} {c : Char} {s : State} {drawn : List Segment} {a : Advance},
      t.Reaches (t.operations word) s drawn → s.Step t (t.lexicon c) a → motive word s drawn →
        motive (word ++ [c]) a.state (drawn ++ a.drawn.toList))
    {word : List Char} (h : t.Reaches (t.operations word) s drawn) : motive word s drawn := by
  induction word using List.reverseRecOn generalizing s drawn with
  | nil =>
    cases Reaches.start.course_eq.symm.trans h.course_eq
    exact start
  | append_singleton word c ih =>
    rw [operations_append_singleton] at h
    obtain ⟨s', drawn', a, hreach, hstep, rfl, rfl⟩ := h.exists_step
    exact step hreach hstep (ih hreach)

theorem Turtle.Reaches.of_append {rest : List Op} (h : t.Reaches (ops ++ rest) s drawn) :
    ∃ s' drawn', t.Reaches ops s' drawn' := by
  induction rest using List.reverseRecOn generalizing s drawn with
  | nil => exact ⟨s, drawn, by rwa [List.append_nil] at h⟩
  | append_singleton rest op ih =>
    rw [← List.append_assoc] at h
    obtain ⟨s', drawn', -, h', -⟩ := h.exists_step
    exact ih h'

theorem Turtle.Reaches.of_course {rest : List Op} {last : State} (h : t.Reaches ops s drawn)
    (hcourse : (t.course ops.length rest s).outcome = .ok last) :
    ∃ drawn', t.Reaches (ops ++ rest) last drawn' := by
  induction rest generalizing ops s drawn with
  | nil =>
    cases hcourse
    exact ⟨drawn, by rwa [List.append_nil]⟩
  | cons op rest ih =>
    rw [course] at hcourse
    cases hstep : s.apply t ops.length op with
    | error e =>
      rw [hstep] at hcourse
      cases hcourse
    | ok a =>
      rw [hstep] at hcourse
      have hnext := h.step (State.step_of_apply_eq_ok hstep)
      have hlength : (ops ++ [op]).length = ops.length + 1 := by simp
      rw [List.append_cons]
      exact ih hnext (by rw [hlength]; exact hcourse)

/-! ## Headings stay on the compass -/

/-- All headings of a state are on the compass, also the remembered ones. -/
structure State.OnCompass (c : Compass) (s : State) : Prop where
  /-- The heading of the turtle. -/
  pose : s.pose.heading < c.directions
  /-- The headings at the starts of the branches. -/
  branches : ∀ p ∈ s.branches, p.heading < c.directions

theorem State.OnCompass.step (hs : s.OnCompass t.compass) (hn : 0 < t.compass.directions) {op : Op}
    {a : Advance} (hstep : s.Step t op a) : a.state.OnCompass t.compass := by
  cases hstep with
  | draw _ => exact ⟨hs.pose, hs.branches⟩
  | move _ => exact ⟨hs.pose, hs.branches⟩
  | turn u => exact ⟨u.heading_lt hn _, hs.branches⟩
  | push => exact ⟨hs.pose, List.forall_mem_cons.mpr ⟨hs.pose, hs.branches⟩⟩
  | pop hb =>
    have := List.forall_mem_cons.mp (hb ▸ hs.branches)
    exact ⟨this.1, this.2⟩
  | ignore => exact hs

theorem Turtle.Reaches.onCompass (h : t.Reaches ops s drawn) (hn : 0 < t.compass.directions) :
    s.OnCompass t.compass := by
  induction h with
  | start => exact ⟨hn, fun p hp ↦ absurd hp List.not_mem_nil⟩
  | step _ hstep ih => exact ih.step hn hstep

theorem Turtle.ahead?_of_lt {p : Pose} (h : p.heading < t.compass.directions) :
    t.ahead? p = some (p.position + (t.compass.vector p.heading).scale t.step) := by
  rw [ahead?, Compass.unit?, if_pos h, Option.map_some]

/-! ## The stack is as high as the sequence -/

theorem Turtle.Reaches.length_branches (h : t.Reaches ops s drawn) :
    (s.branches.length : ℤ) = height ops := by
  induction h with
  | start => rfl
  | @step ops s drawn op a _ hstep ih =>
    rw [Op.height_append, ← ih]
    cases hstep with
    | push => rw [List.length_cons, Op.height_push]; push_cast; ring
    | pop hb => rw [hb, List.length_cons, Op.height_pop]; push_cast; ring
    | draw _ | move _ | turn _ | ignore => simp [Op.height_singleton, State.goTo]

theorem Turtle.Reaches.legal (h : t.Reaches ops s drawn) : Legal ops := by
  induction h with
  | start => exact Op.legal_nil
  | @step ops s drawn op a hops hstep ih =>
    rw [Op.legal_append_singleton_iff, ← (hops.step hstep).length_branches]
    exact ⟨ih, Int.natCast_nonneg _⟩

/-! ## How a course ends -/

theorem Turtle.Reaches.course_append_pop (h : t.Reaches ops s drawn) (hlevel : height ops = 0)
    (rest : List Op) :
    t.course 0 (ops ++ .pop :: rest) State.start =
      ⟨drawn, .error (.underflow ops.length)⟩ := by
  have hnil : s.branches = [] := by
    rw [← List.length_eq_zero_iff, ← Int.natCast_eq_zero, h.length_branches, hlevel]
  rw [h.course_append, Turtle.course, State.apply, hnil, List.append_nil]

/-- **The two ends of a course.** Either it comes to its last operation, or it stops at the end of a
branch that has not begun; before that it was level. -/
theorem Turtle.course_cases (hn : 0 < t.compass.directions) (ops : List Op) :
    (∃ s drawn, t.Reaches ops s drawn ∧ t.course 0 ops State.start = ⟨drawn, .ok s⟩) ∨
      ∃ u v s drawn, ops = u ++ .pop :: v ∧ t.Reaches u s drawn ∧ height u = 0 ∧
        t.course 0 ops State.start = ⟨drawn, .error (.underflow u.length)⟩ := by
  induction ops using List.reverseRecOn with
  | nil => exact Or.inl ⟨_, _, .start, rfl⟩
  | append_singleton ops op ih =>
    rcases ih with ⟨s, drawn, hops, -⟩ | ⟨u, v, s, drawn, rfl, hu, hlevel, -⟩
    · -- the course has come here, so the last operation decides
      cases hstep : s.apply t ops.length op with
      | ok a =>
        have hlast := hops.step (State.step_of_apply_eq_ok hstep)
        exact Or.inl ⟨_, _, hlast, hlast.course_eq⟩
      | error e =>
        have hcourse := hops.course_append [op]
        rw [Turtle.course, hstep, List.append_nil] at hcourse
        rcases State.apply_eq_error hstep with ⟨rfl, hnil, rfl⟩ | hoff
        · refine Or.inr ⟨ops, [], s, drawn, rfl, hops, ?_, hcourse⟩
          rw [← hops.length_branches, hnil]
          rfl
        · rw [Turtle.ahead?_of_lt (hops.onCompass hn).pose] at hoff
          cases hoff
    · -- the course has stopped before, and stops there whatever follows
      refine Or.inr ⟨u, v ++ [op], s, drawn, by simp, hu, hlevel, ?_⟩
      rw [List.append_assoc, List.cons_append, hu.course_append_pop hlevel]

theorem Turtle.eq_underflow_of_course (hn : 0 < t.compass.directions) {e : Error}
    (h : (t.course 0 ops State.start).outcome = .error e) : ∃ i, e = .underflow i := by
  rcases course_cases hn ops with ⟨s, drawn, -, hcourse⟩ | ⟨u, v, s, drawn, -, -, -, hcourse⟩
  · simp [hcourse] at h
  · rw [hcourse] at h
    exact ⟨u.length, (Except.error.inj h).symm⟩

theorem Turtle.exists_reaches_of_legal (hn : 0 < t.compass.directions) (hlegal : Legal ops) :
    ∃ s drawn, t.Reaches ops s drawn := by
  rcases course_cases hn ops with ⟨s, drawn, hs, -⟩ | ⟨u, v, -, -, rfl, -, hlevel, -⟩
  · exact ⟨s, drawn, hs⟩
  · exact absurd hlegal (Op.not_legal_of_append_pop hlevel)

/-! ## Walks to reached states -/

theorem Turtle.exists_reaches_of_walkFrom {σ : Type} {sink : Sink σ} {received received' : σ}
    {word : List Char} (h : t.walkFrom sink 0 word State.start received = (.ok s, received')) :
    ∃ drawn, t.Reaches (t.operations word) s drawn := by
  rw [walkFrom_eq_course] at h
  generalize sink.feed received (t.course 0 (t.operations word) State.start).drawn = fed at h
  rcases fed with ⟨last, failure | failure⟩
  · exact Reaches.start.of_course (Prod.mk.inj h).1
  · cases (Prod.mk.inj h).1

theorem Turtle.exists_reaches_of_walk {σ : Type} {sink : Sink σ} {received : σ} {word : List Char}
    {report : Report} (h : (t.walk sink received word).result = .ok report) :
    ∃ s drawn, t.Reaches (t.operations word) s drawn ∧ s.report = report := by
  rw [walk] at h
  rcases hwalk : t.walkFrom sink 0 word State.start received with ⟨e | s, received'⟩
  · rw [hwalk] at h
    cases h
  · rw [hwalk] at h
    obtain ⟨drawn, hreach⟩ := exists_reaches_of_walkFrom hwalk
    exact ⟨s, drawn, hreach, Except.ok.inj h⟩

theorem Turtle.Reaches.walk_discard {word : List Char}
    (h : t.Reaches (t.operations word) s drawn) :
    (t.walk .discard () word).result = .ok s.report := by
  rw [walk_of_reliable t fun _ _ ↦ rfl, courseOf, h.course_eq]
  rfl

end Lindenmayer
