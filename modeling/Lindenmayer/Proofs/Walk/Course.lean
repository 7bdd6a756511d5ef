import Lindenmayer.Walk
import Mathlib.Data.Nat.Notation

/-!
# Courses

A course is what a walk would be if nobody could refuse a segment: the segments drawn, in order, and
the last state or the error of the turtle. It knows no sink, and every walk is read off it: the sink
is handed the segments of the course until it fails, and the walk ends as the course does unless it
failed.
-/

namespace Lindenmayer

/-! ## Steps -/

/-- The advances that operations make from a state. -/
inductive State.Step (t : Turtle) (s : State) : Op → Advance → Prop
  | draw {p : Point} : t.ahead? s.pose = some p →
      Step t s .draw ⟨{ s.goTo p with segments := s.segments + 1 }, some ⟨s.pose.position, p⟩⟩
  | move {p : Point} : t.ahead? s.pose = some p →
      Step t s .move ⟨{ s.goTo p with moves := s.moves + 1 }, none⟩
  | turn (u : Turn) :
      Step t s (.turn u) ⟨{ s with pose := s.pose.turn t.compass.directions u }, none⟩
  | push : Step t s .push ⟨{ s with
      branches := s.pose :: s.branches
      maxDepth := max s.maxDepth (s.branches.length + 1) }, none⟩
  | pop {p : Pose} {rest : List Pose} : s.branches = p :: rest →
      Step t s .pop ⟨{ s with pose := p, branches := rest }, none⟩
  | ignore : Step t s .ignore ⟨s, none⟩

theorem State.step_of_apply_eq_ok {t : Turtle} {index : ℕ} {op : Op} {s : State} {a : Advance}
    (h : s.apply t index op = .ok a) : s.Step t op a := by
  cases op with
  | draw =>
    cases hp : t.ahead? s.pose with
    | none => rw [apply, hp] at h; cases h
    | some p => rw [apply, hp] at h; cases h; exact .draw hp
  | move =>
    cases hp : t.ahead? s.pose with
    | none => rw [apply, hp] at h; cases h
    | some p => rw [apply, hp] at h; cases h; exact .move hp
  | turn u => rw [apply] at h; cases h; exact .turn u
  | push => rw [apply] at h; cases h; exact .push
  | pop =>
    cases hb : s.branches with
    | nil => rw [apply, hb] at h; cases h
    | cons p rest => rw [apply, hb] at h; cases h; exact .pop hb
  | ignore => rw [apply] at h; cases h; exact .ignore

theorem State.Step.apply_eq_ok {t : Turtle} {op : Op} {s : State} {a : Advance}
    (h : s.Step t op a) (index : ℕ) : s.apply t index op = .ok a := by
  cases h with
  | draw hp => rw [apply, hp]
  | move hp => rw [apply, hp]
  | turn u => rw [apply]
  | push => rw [apply]
  | pop hb => rw [apply, hb]
  | ignore => rw [apply]

/-- An operation fails only where a branch ends that has not begun, or off the compass. -/
theorem State.apply_eq_error {t : Turtle} {index : ℕ} {op : Op} {s : State} {e : Error}
    (h : s.apply t index op = .error e) :
    (op = .pop ∧ s.branches = [] ∧ e = .underflow index) ∨ t.ahead? s.pose = none := by
  cases op with
  | draw =>
    cases hp : t.ahead? s.pose with
    | none => exact Or.inr rfl
    | some p => rw [apply, hp] at h; cases h
  | move =>
    cases hp : t.ahead? s.pose with
    | none => exact Or.inr rfl
    | some p => rw [apply, hp] at h; cases h
  | turn u => rw [apply] at h; cases h
  | push => rw [apply] at h; cases h
  | pop =>
    cases hb : s.branches with
    | nil => rw [apply, hb] at h; cases h; exact Or.inl ⟨rfl, rfl, rfl⟩
    | cons p rest => rw [apply, hb] at h; cases h
  | ignore => rw [apply] at h; cases h

/-! ## Courses and sinks -/

/-- A walk without a sink. -/
structure Course where
  /-- The segments drawn, in order. -/
  drawn : List Segment
  /-- The state after the last operation, or why the turtle did not get there. -/
  outcome : Except Error State

/-- Follows operations from a state and the index of the first one. -/
def Turtle.course (t : Turtle) : (index : ℕ) → List Op → State → Course
  | _, [], s => ⟨[], .ok s⟩
  | index, op :: ops, s =>
    match s.apply t index op with
    | .error e => ⟨[], .error e⟩
    | .ok a =>
      ⟨a.drawn.toList ++ (t.course (index + 1) ops a.state).drawn,
        (t.course (index + 1) ops a.state).outcome⟩

/-- The operations that a word stands for. -/
def Turtle.operations (t : Turtle) (word : List Char) : List Op := word.map t.lexicon

theorem Turtle.length_operations (t : Turtle) (word : List Char) :
    (t.operations word).length = word.length := List.length_map _

theorem Turtle.operations_append_singleton (t : Turtle) (word : List Char) (c : Char) :
    t.operations (word ++ [c]) = t.operations word ++ [t.lexicon c] := List.map_append

/-- The course of a word from the start. -/
def Turtle.courseOf (t : Turtle) (word : List Char) : Course :=
  t.course 0 (t.operations word) State.start

namespace Sink

/-- Hands segments to a sink until it fails. -/
def feed {σ : Type} (sink : Sink σ) : σ → List Segment → σ × Option DeviceError
  | received, [] => (received, none)
  | received, segment :: rest =>
    match sink.emit received segment with
    | (received, none) => sink.feed received rest
    | (received, some failure) => (received, some failure)

/-- A sink that takes every segment. -/
def Reliable {σ : Type} (sink : Sink σ) : Prop :=
  ∀ received segment, (sink.emit received segment).2 = none

theorem reliable_collect : collect.Reliable := fun _ _ ↦ rfl

theorem Reliable.feed_eq {σ : Type} {sink : Sink σ} (h : sink.Reliable) (received : σ)
    (segments : List Segment) :
    sink.feed received segments = ((sink.emitAll received segments).1, none) := by
  induction segments generalizing received with
  | nil => rfl
  | cons segment rest ih =>
    have hemit : sink.emit received segment = ((sink.emit received segment).1, none) :=
      Prod.ext rfl (h received segment)
    rw [feed, hemit, emitAll]
    exact ih _

theorem fst_emitAll_collect (taken : Array Segment) (segments : List Segment) :
    (collect.emitAll taken segments).1.toList = taken.toList ++ segments := by
  induction segments generalizing taken with
  | nil => rw [emitAll, List.append_nil]
  | cons segment rest ih =>
    rw [emitAll]
    refine (ih (taken.push segment)).trans ?_
    rw [Array.toList_push, List.append_assoc, List.singleton_append]

end Sink

/-- What a walk leaves behind, by its course and how the sink took the drawing. -/
def Course.conclude {σ : Type} (c : Course) : σ × Option DeviceError → Walk σ
  | (received, some failure) => ⟨.error (.sink failure), received, []⟩
  | (received, none) =>
    match c.outcome with
    | .ok s => ⟨.ok s.report, received, [s.event]⟩
    | .error e => ⟨.error e, received, []⟩

theorem Turtle.walkFrom_eq_course {σ : Type} (t : Turtle) (sink : Sink σ) (index : ℕ)
    (word : List Char) (s : State) (received : σ) :
    t.walkFrom sink index word s received =
      match sink.feed received (t.course index (t.operations word) s).drawn with
      | (received, none) => ((t.course index (t.operations word) s).outcome, received)
      | (received, some failure) => (.error (.sink failure), received) := by
  induction word generalizing index s received with
  | nil => rfl
  | cons c word ih =>
    have hops : t.operations (c :: word) = t.lexicon c :: t.operations word := rfl
    rw [walkFrom, hops, course]
    cases hstep : s.apply t index (t.lexicon c) with
    | error e => rfl
    | ok a =>
      obtain ⟨next, drawn⟩ := a
      cases drawn with
      | none => exact ih _ _ _
      | some segment =>
        -- the walk goes on as the course does exactly if the sink takes the segment
        simp only [Option.toList_some, List.singleton_append, Sink.feed]
        rcases sink.emit received segment with ⟨received, failure | failure⟩
        · exact ih _ _ _
        · rfl

/-- **Every walk is read off its course.** -/
theorem Turtle.walk_eq_conclude {σ : Type} (t : Turtle) (sink : Sink σ) (received : σ)
    (word : List Char) :
    t.walk sink received word =
      (t.courseOf word).conclude (sink.feed received (t.courseOf word).drawn) := by
  rw [walk, walkFrom_eq_course, courseOf]
  rcases sink.feed received (t.course 0 (t.operations word) State.start).drawn with
    ⟨received, failure | failure⟩
  · rw [Course.conclude]
    cases (t.course 0 (t.operations word) State.start).outcome with
    | ok s => rfl
    | error e => rfl
  · rfl

theorem Turtle.walk_of_reliable {σ : Type} (t : Turtle) {sink : Sink σ} (hsink : sink.Reliable)
    (received : σ) (word : List Char) :
    t.walk sink received word =
      (t.courseOf word).conclude ((sink.emitAll received (t.courseOf word).drawn).1, none) := by
  rw [walk_eq_conclude, hsink.feed_eq]

end Lindenmayer
