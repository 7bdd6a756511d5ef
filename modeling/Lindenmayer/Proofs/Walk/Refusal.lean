import Lindenmayer.Proofs.Walk.Watched
import Mathlib.Data.List.Count

/-!
# Walks into a sink that fails

A sink has one influence on a walk: it can end it. A sink that takes a given number of segments and
refuses every further one leaves a walk as it is if the drawing is not longer than that. Otherwise
it ends the walk at the first segment it refuses, with all segments before that one taken and none
offered behind it.

## Which end comes first

A walk can end early for two reasons, a refused segment and the end of a branch that has not begun.
The course knows only the second and stops there, so its segments are those drawn before it. Whether
the sink fails among them is a comparison of two numbers, and no walk into the sink has to be
followed for it.
-/

namespace Lindenmayer

namespace Sink

variable {σ : Type}

/-! ## Counted offers -/

/-- The same sink, with the number of segments it was offered, those it refused among them. -/
def counting (sink : Sink σ) : Sink (σ × ℕ) where
  emit state segment :=
    (((sink.emit state.1 segment).1, state.2 + 1), (sink.emit state.1 segment).2)

theorem emit_counting (sink : Sink σ) (received : σ) (offered : ℕ) (segment : Segment) :
    sink.counting.emit (received, offered) segment =
      (((sink.emit received segment).1, offered + 1), (sink.emit received segment).2) := rfl

theorem feed_counting (sink : Sink σ) (received : σ) (offered : ℕ) (segments : List Segment) :
    sink.feed received segments =
      ((sink.counting.feed (received, offered) segments).1.1,
        (sink.counting.feed (received, offered) segments).2) :=
  sink.feed_watched (fun n _ ↦ n + 1) received offered segments

/-! ## Sinks with a limit -/

theorem emit_failing_of_lt {limit : ℕ} {taken : Array Segment} (h : taken.size < limit)
    (failure : DeviceError) (segment : Segment) :
    (failing limit failure).emit taken segment = (taken.push segment, none) := if_pos h

theorem emit_failing_of_le {limit : ℕ} {taken : Array Segment} (h : limit ≤ taken.size)
    (failure : DeviceError) (segment : Segment) :
    (failing limit failure).emit taken segment = (taken, some failure) := if_neg (Nat.not_lt.mpr h)

/-- A sink with some room left takes what fits and fails if something does not; the first segment
that does not fit is the last one it is offered. -/
theorem feed_counting_failing (failure : DeviceError) {room limit : ℕ} {taken : Array Segment}
    (h : taken.size + room = limit) (offered : ℕ) (segments : List Segment) :
    (failing limit failure).counting.feed (taken, offered) segments =
      ((taken ++ segments.take room, offered + min segments.length (room + 1)),
        if segments.length ≤ room then none else some failure) := by
  induction segments generalizing taken offered room with
  | nil => simp [feed]
  | cons segment rest ih =>
    rw [feed, emit_counting]
    cases room with
    | zero =>
      rw [emit_failing_of_le (by omega)]
      simp
    | succ room =>
      have hpush : (taken.push segment).size + room = limit := by
        rw [Array.size_push]
        omega
      have hcount : offered + 1 + min rest.length (room + 1)
          = offered + min (rest.length + 1) (room + 1 + 1) := by omega
      rw [emit_failing_of_lt (by omega)]
      simp only [ih hpush, hcount, List.take_succ_cons, List.length_cons, Nat.add_le_add_iff_right,
        Array.appendList_cons]

theorem feed_failing (failure : DeviceError) (limit : ℕ) (segments : List Segment) :
    (failing limit failure).feed #[] segments =
      ((segments.take limit).toArray, if segments.length ≤ limit then none else some failure) := by
  rw [feed_counting _ _ 0, feed_counting_failing failure (by rw [Array.size_empty, Nat.zero_add])]
  simp

theorem emitAll_collect (segments : List Segment) :
    (collect.emitAll #[] segments).1 = segments.toArray := by
  rw [← Array.toList_inj, fst_emitAll_collect]
  rfl

end Sink

/-! ## Ends of a course -/

theorem Course.received_conclude {σ : Type} (c : Course) (received : σ)
    (failure : Option DeviceError) : (c.conclude (received, failure)).received = received := by
  cases failure with
  | none => rw [conclude]; cases c.outcome <;> rfl
  | some failure => rfl

theorem Course.result_conclude {σ : Type} (c : Course) (received : σ) :
    (c.conclude (received, none)).result = c.outcome.map State.report := by
  rw [conclude]
  rcases c.outcome with e | s
  · rfl
  · rfl

theorem Turtle.toList_received_collect (t : Turtle) (word : List Char) :
    (t.walk .collect #[] word).received.toList = (t.courseOf word).drawn := by
  rw [walk_of_reliable t Sink.reliable_collect, Course.received_conclude,
    Sink.fst_emitAll_collect]
  simp

theorem Turtle.result_collect (t : Turtle) (word : List Char) :
    (t.walk .collect #[] word).result = (t.courseOf word).outcome.map State.report := by
  rw [walk_of_reliable t Sink.reliable_collect, Course.result_conclude]

theorem Course.outcome_of_underflow {σ : Type} {c : Course} {received : σ} {i : ℕ}
    (h : (c.conclude (received, none)).result = .error (.underflow i)) :
    c.outcome = .error (.underflow i) := by
  rw [conclude] at h
  cases houtcome : c.outcome with
  | ok s => rw [houtcome] at h; cases h
  | error e => rw [houtcome] at h; cases h; rfl

variable {t : Turtle}

theorem State.eq_of_apply_eq_underflow {index i : ℕ} {op : Op} {s : State}
    (h : s.apply t index op = .error (.underflow i)) : i = index := by
  cases op with
  | draw | move => cases hp : t.ahead? s.pose <;> rw [apply, hp] at h <;> cases h
  | pop =>
    cases hb : s.branches with
    | nil => rw [apply, hb] at h; cases h; rfl
    | cons p rest => rw [apply, hb] at h; cases h
  | turn u | push | ignore => rw [apply] at h; cases h

theorem Turtle.length_drawn_of_underflow {index i : ℕ} {ops : List Op} {s : State}
    (h : (t.course index ops s).outcome = .error (.underflow i)) :
    index ≤ i ∧
      (t.course index ops s).drawn.length = (ops.take (i - index)).count .draw := by
  induction ops generalizing index s with
  | nil => cases h
  | cons op ops ih =>
    rw [course] at h ⊢
    cases hstep : s.apply t index op with
    | error e =>
      rw [hstep] at h
      cases h
      obtain rfl := State.eq_of_apply_eq_underflow hstep
      simp
    | ok a =>
      rw [hstep] at h
      obtain ⟨hle, hdrawn⟩ := ih h
      refine ⟨by omega, ?_⟩
      rw [show i - index = i - (index + 1) + 1 by omega, List.take_succ_cons, List.count_cons]
      have := State.step_of_apply_eq_ok hstep
      rw [List.length_append, hdrawn]
      cases this with
      | draw _ => simp; omega
      | move _ | turn _ | push | pop _ | ignore => simp

/-! ## Walks cut short -/

theorem Turtle.walk_counting {σ : Type} (t : Turtle) (sink : Sink σ) (received : σ) (offered : ℕ)
    (word : List Char) :
    t.walk sink.counting (received, offered) word =
      ⟨(t.walk sink received word).result,
        ((t.walk sink received word).received,
          (sink.counting.feed (received, offered) (t.courseOf word).drawn).1.2),
        (t.walk sink received word).log⟩ :=
  t.walk_watched (fun n _ ↦ n + 1) sink received offered word

/-- **A sink that fails cuts a walk short and changes nothing else.** Compare the walk into a sink
that keeps everything with the walk into one that refuses every segment behind the first `limit`. If
nothing is refused, the walks are the same. Otherwise the second one ends with the failure of its
sink, without a record, with the first `limit` segments taken and one more offered. Where the first
walk underflows, the failure comes before that exactly if more than `limit` steps with the pen down
do. -/
theorem Turtle.walk_failing (t : Turtle) (word : List Char) (limit : ℕ) (failure : DeviceError) :
    let free := t.walk .collect #[] word
    let cut := t.walk (.failing limit failure) #[] word
    let counted := t.walk (Sink.failing limit failure).counting (#[], 0) word
    (free.received.size ≤ limit → cut = free) ∧
      (limit < free.received.size →
        cut.result = .error (.sink failure) ∧ cut.log = [] ∧
          cut.received.toList = free.received.toList.take limit) ∧
      counted = ⟨cut.result, (cut.received, min free.received.size (limit + 1)), cut.log⟩ ∧
      ∀ i, free.result = .error (.underflow i) →
        cut.result =
          if limit < ((t.operations word).take i).count .draw then .error (.sink failure)
          else .error (.underflow i) := by
  intro free cut counted
  have hfree : free = (t.courseOf word).conclude ((t.courseOf word).drawn.toArray, none) := by
    rw [← Sink.emitAll_collect, ← t.walk_of_reliable Sink.reliable_collect]
  have hcut : cut = (t.courseOf word).conclude (((t.courseOf word).drawn.take limit).toArray,
      if (t.courseOf word).drawn.length ≤ limit then none else some failure) := by
    rw [← Sink.feed_failing, ← t.walk_eq_conclude]
  have hsize : free.received.size = (t.courseOf word).drawn.length := by
    rw [hfree, Course.received_conclude, List.size_toArray]
  have hle : free.received.size ≤ limit → cut = free := by
    intro h
    rw [hsize] at h
    rw [hcut, if_pos h, List.take_of_length_le h, hfree]
  have hlt : limit < free.received.size → cut = ⟨.error (.sink failure),
      ((t.courseOf word).drawn.take limit).toArray, []⟩ := by
    intro h
    rw [hsize] at h
    rw [hcut, if_neg (Nat.not_le.mpr h)]
    rfl
  refine ⟨hle, fun h ↦ ?_, ?_, fun i h ↦ ?_⟩
  · rw [hlt h, hfree, Course.received_conclude]
    exact ⟨rfl, rfl, rfl⟩
  · have hempty : (#[] : Array Segment).size + limit = limit := Nat.zero_add limit
    rw [show counted = _ from t.walk_counting _ _ _ word, Sink.feed_counting_failing failure hempty,
      hsize, Nat.zero_add]
  · have hcount : free.received.size = ((t.operations word).take i).count .draw := by
      rw [hsize]
      exact (length_drawn_of_underflow (Course.outcome_of_underflow (hfree ▸ h))).2
    rw [← hcount]
    split
    · next h => rw [hlt h]
    · next h' => rw [hle (Nat.not_lt.mp h'), h]

/-- Two segments are drawn, then a branch ends that has not begun: with room for one segment the
sink ends the walk, with room for both of them the walk underflows as it would into any other. -/
theorem Turtle.walk_failing_before_underflow :
    let t : Turtle := ⟨⟨4⟩, Turtle.defaultStep, .conventional⟩
    let word := "F+F]F".toList
    (t.walk .collect #[] word).result = .error (.underflow 3) ∧
      (t.walk (.failing 1 .closed) #[] word).result = .error (.sink .closed) ∧
      (t.walk (.failing 2 .closed) #[] word).result = .error (.underflow 3) := by
  intro t word
  have hfree : (t.walk .collect #[] word).result = .error (.underflow 3) := by decide +kernel
  have hops : ((t.operations word).take 3).count .draw = 2 := by decide
  refine ⟨hfree, ?_, ?_⟩
  · rw [(t.walk_failing word 1 .closed).2.2.2 3 hfree, hops]
    rfl
  · rw [(t.walk_failing word 2 .closed).2.2.2 3 hfree, hops]
    rfl

end Lindenmayer
