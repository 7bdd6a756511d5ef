import Lindenmayer.Proofs.Walk.Reached
import Lindenmayer.Proofs.Walk.Watched

/-!
# Connected drawings

Without steps with the pen up a drawing hangs together, exactly and not only up to rounding: each
segment starts at the origin or where an earlier one stops. Without branches either, it is one
stroke.

A segment starts where the turtle is, so this is about places. The turtle comes to a place by
drawing a segment that stops there, or by going back to a place that it has been to. The second way
is why the invariant speaks of the remembered poses too. No arithmetic is used: the place of a
turtle is not computed again from its segments, it is the same datum, whatever was rounded on the
way to it.

## Segments that nobody took

A walk may end early, and its sink may refuse a segment. What the sink is offered is then still the
beginning of a drawing, and both properties are about beginnings: they compare a segment with those
before it.
-/

namespace Lindenmayer

/-! ## Where segments start -/

/-- Every segment of a drawing starts at a point that the segments before it allow. -/
def Joined (allows : List Segment → Point → Prop) (drawing : List Segment) : Prop :=
  ∀ before s behind, drawing = before ++ s :: behind → allows before s.start

/-- A point that segments hang together with: the origin, or a point where one of them stops. -/
def Touches (drawing : List Segment) (p : Point) : Prop :=
  p = Point.origin ∨ ∃ s ∈ drawing, s.stop = p

/-- Where the last segment stops, or the origin. -/
def tip (drawing : List Segment) : Point :=
  (drawing.getLast?.map Segment.stop).getD Point.origin

@[simp] theorem tip_nil : tip [] = Point.origin := rfl

@[simp] theorem tip_append_singleton (drawing : List Segment) (s : Segment) :
    tip (drawing ++ [s]) = s.stop := by
  rw [tip, List.getLast?_concat, Option.map_some, Option.getD_some]

theorem Touches.append {drawing : List Segment} {p : Point} (h : Touches drawing p)
    (more : List Segment) : Touches (drawing ++ more) p :=
  h.imp_right fun ⟨s, hs, hstop⟩ ↦ ⟨s, List.mem_append_left more hs, hstop⟩

theorem touches_stop (drawing : List Segment) (s : Segment) : Touches (drawing ++ [s]) s.stop :=
  .inr ⟨s, List.mem_concat_self, rfl⟩

namespace Joined

variable {allows : List Segment → Point → Prop} {drawing : List Segment}

theorem nil : Joined allows [] := by
  intro before s behind h
  exact absurd h.symm (List.append_ne_nil_of_right_ne_nil _ (List.cons_ne_nil _ _))

theorem append_singleton (h : Joined allows drawing) {s : Segment} (hs : allows drawing s.start) :
    Joined allows (drawing ++ [s]) := by
  intro before s' behind heq
  induction behind using List.reverseRecOn with
  | nil =>
    obtain ⟨rfl, hlast⟩ := List.append_inj' heq rfl
    cases hlast
    exact hs
  | append_singleton behind s'' _ =>
    rw [← List.cons_append, ← List.append_assoc] at heq
    obtain ⟨rfl, -⟩ := List.append_inj' heq rfl
    exact h before s' behind rfl

theorem of_prefix (h : Joined allows drawing) {part : List Segment} (hpart : part <+: drawing) :
    Joined allows part := by
  obtain ⟨more, rfl⟩ := hpart
  intro before s behind heq
  exact h before s (behind ++ more) (by rw [heq, List.append_assoc, List.cons_append])

end Joined

/-! ## The invariants -/

variable {t : Turtle} {ops : List Op} {s : State} {drawn : List Segment}

/-- What a turtle carries touches what it has drawn, and that hangs together. -/
structure State.Attached (s : State) (drawn : List Segment) : Prop where
  pose : Touches drawn s.pose.position
  branches : ∀ p ∈ s.branches, Touches drawn p.position
  drawn : Joined Touches drawn

theorem State.Attached.step (h : s.Attached drawn) {op : Op} {a : Advance} (hstep : s.Step t op a)
    (hmove : op ≠ .move) : a.state.Attached (drawn ++ a.drawn.toList) := by
  cases hstep with
  | draw hp =>
    exact ⟨touches_stop drawn _, fun p hp ↦ (h.branches p hp).append _,
      h.drawn.append_singleton h.pose⟩
  | move _ => exact absurd rfl hmove
  | turn _ | ignore =>
    rw [Option.toList_none, List.append_nil]
    exact ⟨h.pose, h.branches, h.drawn⟩
  | push =>
    rw [Option.toList_none, List.append_nil]
    exact ⟨h.pose, List.forall_mem_cons.mpr ⟨h.pose, h.branches⟩, h.drawn⟩
  | pop hb =>
    rw [Option.toList_none, List.append_nil]
    obtain ⟨hpose, hrest⟩ := List.forall_mem_cons.mp (hb ▸ h.branches)
    exact ⟨hpose, hrest, h.drawn⟩

theorem Turtle.Reaches.attached (h : t.Reaches ops s drawn) (hmove : .move ∉ ops) :
    s.Attached drawn := by
  induction h with
  | start => exact ⟨.inl rfl, fun p hp ↦ absurd hp List.not_mem_nil, .nil⟩
  | step _ hstep ih =>
    rw [List.mem_append, List.mem_singleton, not_or] at hmove
    exact (ih hmove.1).step hstep (Ne.symm hmove.2)

/-- A turtle that never goes back is where its drawing ends, which is one stroke. -/
structure State.AtTip (s : State) (drawn : List Segment) : Prop where
  pose : s.pose.position = tip drawn
  drawn : Joined (fun before p ↦ p = tip before) drawn

theorem State.AtTip.step (h : s.AtTip drawn) {op : Op} {a : Advance} (hstep : s.Step t op a)
    (hmove : op ≠ .move) (hpop : op ≠ .pop) : a.state.AtTip (drawn ++ a.drawn.toList) := by
  cases hstep with
  | @draw p _ =>
    exact ⟨(tip_append_singleton drawn ⟨s.pose.position, p⟩).symm,
      h.drawn.append_singleton h.pose⟩
  | move _ => exact absurd rfl hmove
  | pop _ => exact absurd rfl hpop
  | turn _ | push | ignore =>
    rw [Option.toList_none, List.append_nil]
    exact ⟨h.pose, h.drawn⟩

theorem Turtle.Reaches.atTip (h : t.Reaches ops s drawn) (hmove : .move ∉ ops)
    (hpop : .pop ∉ ops) : s.AtTip drawn := by
  induction h with
  | start => exact ⟨rfl, .nil⟩
  | step _ hstep ih =>
    rw [List.mem_append, List.mem_singleton, not_or] at hmove hpop
    exact (ih hmove.1 hpop.1).step hstep (Ne.symm hmove.2) (Ne.symm hpop.2)

/-! ## Walks -/

theorem Turtle.exists_reaches_drawn (hn : 0 < t.compass.directions) (ops : List Op) :
    ∃ u s, u <+: ops ∧ t.Reaches u s (t.course 0 ops State.start).drawn := by
  rcases course_cases hn ops with ⟨s, drawn, hs, hcourse⟩ | ⟨u, v, s, drawn, rfl, hu, -, hcourse⟩
  · exact ⟨ops, s, List.prefix_refl ops, by rwa [hcourse]⟩
  · exact ⟨u, s, List.prefix_append u _, by rwa [hcourse]⟩

theorem Turtle.mem_operations {word : List Char} {op : Op} :
    op ∈ t.operations word ↔ ∃ c ∈ word, t.lexicon c = op := List.mem_map

/-- **Drawings hang together.** Whatever a sink does, and however a walk into it ends: if no symbol
of the word is a step with the pen up, every segment that the sink is offered starts at the origin
or where a segment it was offered before stops. If no symbol ends a branch either, the first segment
starts at the origin and every other one where the one just before it stops. -/
theorem Turtle.walk_connected {σ : Type} (t : Turtle) (hn : 0 < t.compass.directions)
    (sink : Sink σ) (received : σ) {word : List Char} (hmove : ∀ c ∈ word, t.lexicon c ≠ .move) :
    ∃ offered, t.walk sink.recording (received, []) word =
        ⟨(t.walk sink received word).result, ((t.walk sink received word).received, offered),
          (t.walk sink received word).log⟩ ∧
      (∀ before s behind, offered = before ++ s :: behind →
        s.start = Point.origin ∨ ∃ s' ∈ before, s'.stop = s.start) ∧
      ((∀ c ∈ word, t.lexicon c ≠ .pop) →
        (∀ s behind, offered = s :: behind → s.start = Point.origin) ∧
          ∀ before s s' behind, offered = before ++ s :: s' :: behind → s'.start = s.stop) := by
  obtain ⟨offered, hprefix, hseen⟩ :=
    sink.exists_prefix_feed_recording received [] (t.courseOf word).drawn
  obtain ⟨u, s, hu, hreach⟩ := t.exists_reaches_drawn hn (t.operations word)
  have hmove' : .move ∉ u := by
    intro h
    obtain ⟨c, hc, hop⟩ := mem_operations.mp (hu.subset h)
    exact hmove c hc hop
  refine ⟨offered, ?_, ((hreach.attached hmove').drawn.of_prefix hprefix), fun hpop ↦ ?_⟩
  · rw [← List.nil_append offered, ← hseen]
    exact t.walk_watched _ sink received [] word
  · have hpop' : .pop ∉ u := by
      intro h
      obtain ⟨c, hc, hop⟩ := mem_operations.mp (hu.subset h)
      exact hpop c hc hop
    have hstroke := (hreach.atTip hmove' hpop').drawn.of_prefix hprefix
    refine ⟨fun s behind h ↦ (hstroke [] s behind h).trans tip_nil, fun before s s' behind h ↦ ?_⟩
    rw [hstroke (before ++ [s]) s' behind (by rw [h, List.append_assoc, List.singleton_append]),
      tip_append_singleton]

/-- Three segments are offered and the last of them is refused: it starts behind a branch, where the
first one stops. -/
theorem Turtle.walk_connected_refused :
    let t : Turtle := ⟨⟨7⟩, Turtle.defaultStep, .conventional⟩
    let word := "F[+F]-F]F".toList
    let offered := (t.walk (Sink.failing 2 .closed).recording (#[], []) word).received.2
    0 < t.compass.directions ∧ (∀ c ∈ word, t.lexicon c ≠ .move) ∧
      (t.walk (.failing 2 .closed) #[] word).result = .error (.sink .closed) ∧
      offered.length = 3 ∧
      ∀ before s behind, offered = before ++ s :: behind →
        s.start = Point.origin ∨ ∃ s' ∈ before, s'.stop = s.start := by
  intro t word offered
  have hn : 0 < t.compass.directions := by decide
  have hmove : ∀ c ∈ word, t.lexicon c ≠ .move := List.forall_iff_forall_mem.mp (by decide)
  have hresult : (t.walk (.failing 2 .closed) #[] word).result = .error (.sink .closed) := by
    decide +kernel
  have hlength : offered.length = 3 := by decide +kernel
  obtain ⟨offered', hwalk, hjoined, -⟩ :=
    t.walk_connected hn (.failing 2 .closed) #[] hmove
  obtain rfl : offered = offered' := congrArg (fun w ↦ w.received.2) hwalk
  exact ⟨hn, hmove, hresult, hlength, hjoined⟩

end Lindenmayer
