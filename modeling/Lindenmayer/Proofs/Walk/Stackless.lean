import Lindenmayer.Proofs.Branch.Prune
import Lindenmayer.Proofs.Walk.Reached

/-!
# Walks without a stack

What a walk draws can be said without the poses it remembers. Delete the closed branches from the
operations so far; the turns that are left, counted, give the heading, and the steps that are left,
added up in their order, give the place. A segment is drawn from there for each step with the pen
down, as long as no branch has been closed that was not open.

## The stack as a record of prefixes

Each remembered pose is the pose after the pruned operations before some branch that is still open,
and between two such branches everything is balanced. That is `Remembers`, the invariant. It needs
no reduction of nested branches: when a branch ends, the operations since its start are balanced,
and a balanced branch at the end is pruned without a trace.
-/

namespace Lindenmayer

open Op (Legal Balanced prune)

/-! ## Poses without a stack -/

/-- The heading after operations, from the numbers of their turns. -/
def Compass.headingAfter (c : Compass) (ops : List Op) : UInt64 :=
  .ofNat ((ops.count (.turn .left) - ops.count (.turn .right)
    + ops.count (.turn .around) * (c.directions.toNat / 2 : ℕ) : ℤ) % c.directions.toNat).toNat

namespace Turtle

variable (t : Turtle)

/-- The displacement of a step after operations. -/
def strideAfter (ops : List Op) : Point :=
  (t.compass.vector (t.compass.headingAfter ops)).scale t.step

/-- The place after operations: their steps, added up from the origin in their order, each with the
heading after what is before it. -/
def placeAfter (ops : List Op) : Point :=
  ((List.range ops.length).filter fun k ↦ ops[k]? = some .draw ∨ ops[k]? = some .move).foldl
    (fun p k ↦ p + t.strideAfter (ops.take k)) Point.origin

/-- The pose after operations. -/
def poseAfter (ops : List Op) : Pose := ⟨t.compass.headingAfter ops, t.placeAfter ops⟩

/-- The segment that a step draws after operations. -/
def segmentAfter (ops : List Op) : Segment :=
  ⟨t.placeAfter ops, t.placeAfter ops + t.strideAfter ops⟩

/-- The drawing of a sequence of operations. -/
def drawing (ops : List Op) : List Segment := (Op.strokes ops).map t.segmentAfter

end Turtle

/-! ## One more operation -/

@[simp] theorem Compass.headingAfter_nil (c : Compass) : c.headingAfter [] = 0 := by
  rw [headingAfter, List.count_nil, List.count_nil, List.count_nil]
  simp

theorem Compass.headingAfter_append_of_ne (c : Compass) (ops : List Op) {op : Op}
    (h : ∀ u, op ≠ .turn u) : c.headingAfter (ops ++ [op]) = c.headingAfter ops := by
  have hcount : ∀ u : Turn, (ops ++ [op]).count (.turn u) = ops.count (.turn u) := by
    intro u
    rw [List.count_append, List.count_singleton, beq_false_of_ne (h u)]
    rfl
  rw [headingAfter, headingAfter, hcount, hcount, hcount]

theorem Compass.toNat_headingAfter (c : Compass) (hn : 0 < c.directions) (ops : List Op) :
    ((c.headingAfter ops).toNat : ℤ) =
      (ops.count (.turn .left) - ops.count (.turn .right)
        + ops.count (.turn .around) * (c.directions.toNat / 2 : ℕ)) % c.directions.toNat := by
  have hpos : (0 : ℤ) < c.directions.toNat := Int.natCast_pos.mpr (UInt64.lt_iff_toNat_lt.mp hn)
  have hbound := c.directions.toNat_lt
  set x : ℤ := ops.count (.turn .left) - ops.count (.turn .right)
    + ops.count (.turn .around) * (c.directions.toNat / 2 : ℕ) with hx
  have hnonneg : 0 ≤ x % c.directions.toNat := Int.emod_nonneg _ hpos.ne'
  have hlt : x % c.directions.toNat < c.directions.toNat := Int.emod_lt_of_pos _ hpos
  rw [headingAfter, ← hx, UInt64.toNat_ofNat_of_lt' (by rw [UInt64.size]; omega),
    Int.toNat_of_nonneg hnonneg]

theorem Compass.headingAfter_lt (c : Compass) (hn : 0 < c.directions) (ops : List Op) :
    c.headingAfter ops < c.directions := by
  have hpos : (0 : ℤ) < c.directions.toNat := Int.natCast_pos.mpr (UInt64.lt_iff_toNat_lt.mp hn)
  have hlt := Int.emod_lt_of_pos ((ops.count (.turn .left) - ops.count (.turn .right)
    + ops.count (.turn .around) * (c.directions.toNat / 2 : ℕ) : ℤ)) hpos
  rw [← toNat_headingAfter c hn] at hlt
  exact UInt64.lt_iff_toNat_lt.mpr (Int.ofNat_lt.mp hlt)

theorem Compass.headingAfter_append_turn (c : Compass) (hn : 0 < c.directions)
    (hmax : c.directions.toNat ≤ 2 ^ 63) (ops : List Op) (u : Turn) :
    c.headingAfter (ops ++ [.turn u]) = u.heading c.directions (c.headingAfter ops) := by
  refine UInt64.toNat_inj.mp (Int.ofNat_inj.mp ?_)
  rw [u.toNat_heading hmax (c.headingAfter_lt hn ops), toNat_headingAfter c hn,
    toNat_headingAfter c hn, Int.emod_add_emod]
  -- both sums are the one of `ops` and the quanta of one turn more
  congr 1
  cases u <;> simp [Turn.quanta] <;> ring

namespace Turtle

variable (t : Turtle)

/-- A step adds its displacement at the end, and nothing else changes the place. -/
theorem placeAfter_append_singleton (ops : List Op) (op : Op) :
    t.placeAfter (ops ++ [op]) = if op = .draw ∨ op = .move
      then t.placeAfter ops + t.strideAfter ops else t.placeAfter ops := by
  -- the places of the steps before `op` are those of `ops`, and so is what stands before each
  have hsteps : ((List.range ops.length).filter fun k ↦
      (ops ++ [op])[k]? = some .draw ∨ (ops ++ [op])[k]? = some .move)
        = (List.range ops.length).filter fun k ↦ ops[k]? = some .draw ∨ ops[k]? = some .move := by
    refine List.filter_congr fun k hk ↦ ?_
    rw [List.getElem?_append_left (List.mem_range.mp hk)]
  have hbefore : ((List.range ops.length).filter fun k ↦
      ops[k]? = some .draw ∨ ops[k]? = some .move).foldl
        (fun p k ↦ p + t.strideAfter ((ops ++ [op]).take k)) Point.origin = t.placeAfter ops := by
    refine List.foldl_ext _ _ _ fun p k hk ↦ ?_
    rw [List.take_append_of_le_length (List.mem_range.mp (List.mem_of_mem_filter hk)).le]
  rw [placeAfter, List.length_append, List.length_singleton, List.range_succ, List.filter_append,
    List.foldl_append, hsteps, hbefore, List.filter_singleton, List.getElem?_concat_length]
  by_cases h : op = .draw ∨ op = .move
  · simp [h]
  · simp [h]

end Turtle

/-! ## The invariant -/

/-- The remembered poses, innermost first, as the operations give them: each is the pose after the
pruned operations before a branch that is open, and what is between open branches is balanced. -/
inductive Turtle.Remembers (t : Turtle) : List Op → List Pose → Prop
  | level {ops : List Op} : Balanced ops → Remembers t ops []
  | branch {u b : List Op} {poses : List Pose} : Remembers t u poses → Balanced b →
      Remembers t (u ++ .push :: b) (t.poseAfter (prune u) :: poses)

variable {t : Turtle} {ops : List Op} {s : State} {drawn : List Segment}

theorem Turtle.Remembers.append {poses : List Pose} (h : t.Remembers ops poses) {b : List Op}
    (hb : Balanced b) : t.Remembers (ops ++ b) poses := by
  cases h with
  | level hops => exact .level (hops.append hb)
  | branch hu hb' =>
    rw [List.append_assoc, List.cons_append]
    exact .branch hu (hb'.append hb)

theorem Turtle.poseAfter_append_step (t : Turtle) (ops : List Op) {op : Op}
    (h : op = .draw ∨ op = .move) :
    t.poseAfter (ops ++ [op])
      = { t.poseAfter ops with position := t.placeAfter ops + t.strideAfter ops } := by
  rw [poseAfter, placeAfter_append_singleton, if_pos h,
    Compass.headingAfter_append_of_ne _ _ (by rcases h with rfl | rfl <;> simp), poseAfter]

theorem Turtle.poseAfter_append_of_ne (t : Turtle) (ops : List Op) (op : Op)
    (hturn : ∀ u, op ≠ .turn u) (hdraw : op ≠ .draw) (hmove : op ≠ .move) :
    t.poseAfter (ops ++ [op]) = t.poseAfter ops := by
  rw [poseAfter, placeAfter_append_singleton, if_neg (by simp [hdraw, hmove]),
    Compass.headingAfter_append_of_ne _ _ hturn, poseAfter]

theorem Turtle.poseAfter_append_turn (t : Turtle) (hn : 0 < t.compass.directions)
    (hmax : t.compass.directions.toNat ≤ 2 ^ 63) (ops : List Op) (u : Turn) :
    t.poseAfter (ops ++ [.turn u]) = (t.poseAfter ops).turn t.compass.directions u := by
  rw [poseAfter, placeAfter_append_singleton, if_neg (by simp),
    Compass.headingAfter_append_turn _ hn hmax, poseAfter, Pose.turn]

theorem Turtle.ahead?_poseAfter (t : Turtle) (hn : 0 < t.compass.directions) (ops : List Op) :
    t.ahead? (t.poseAfter ops) = some (t.placeAfter ops + t.strideAfter ops) :=
  ahead?_of_lt (t.compass.headingAfter_lt hn ops)

/-! ### One step, field by field -/

theorem Turtle.pose_step (hn : 0 < t.compass.directions)
    (hmax : t.compass.directions.toNat ≤ 2 ^ 63) (hpose : s.pose = t.poseAfter (prune ops))
    (hbranches : t.Remembers ops s.branches) {op : Op} {a : Advance} (hstep : s.Step t op a) :
    a.state.pose = t.poseAfter (prune (ops ++ [op])) := by
  cases hstep with
  | draw hp | move hp =>
    rw [hpose, ahead?_poseAfter t hn] at hp
    cases hp
    rw [Op.prune_append_singleton ops _ (by simp), poseAfter_append_step t _ (by simp), ← hpose]
    rfl
  | turn u =>
    rw [Op.prune_append_singleton ops _ (by simp), poseAfter_append_turn t hn hmax, ← hpose]
  | push | ignore =>
    rw [Op.prune_append_singleton ops _ (by simp),
      poseAfter_append_of_ne t _ _ (by simp) (by simp) (by simp), ← hpose]
  | pop hb =>
    -- the operations since the start of the branch are balanced, and now it is closed
    rw [hb] at hbranches
    cases hbranches with
    | @branch u b rest hu hbal => rw [Op.append_push_append_pop, Op.prune_append_branch u hbal]

theorem Turtle.remembers_step (hpose : s.pose = t.poseAfter (prune ops))
    (hbranches : t.Remembers ops s.branches) {op : Op} {a : Advance} (hstep : s.Step t op a) :
    t.Remembers (ops ++ [op]) a.state.branches := by
  cases hstep with
  | draw _ | move _ | turn _ | ignore =>
    exact hbranches.append (Op.balanced_singleton (by simp) (by simp))
  | push =>
    rw [hpose]
    exact .branch hbranches Op.balanced_nil
  | pop hb =>
    rw [hb] at hbranches
    cases hbranches with
    | @branch u b rest hu hbal =>
      -- the closed branch is balanced and joins what stands before it
      rw [Op.append_push_append_pop]
      exact hu.append hbal.branch

theorem Turtle.drawing_step (hn : 0 < t.compass.directions)
    (hpose : s.pose = t.poseAfter (prune ops)) (hlegal : Legal ops) {op : Op} {a : Advance}
    (hstep : s.Step t op a) : t.drawing ops ++ a.drawn.toList = t.drawing (ops ++ [op]) := by
  cases hstep with
  | draw hp =>
    rw [hpose, ahead?_poseAfter t hn] at hp
    cases hp
    rw [drawing, drawing, Op.strokes_append_draw hlegal, List.map_append, hpose]
    rfl
  | move _ | turn _ | push | pop _ | ignore =>
    rw [drawing, drawing, Op.strokes_append_of_ne ops _ (by simp)]
    exact List.append_nil _

/-! ### All steps -/

/-- What a walk carries is what the operations behind it say. -/
structure Turtle.Retraces (t : Turtle) (ops : List Op) (s : State) (drawn : List Segment) :
    Prop where
  pose : s.pose = t.poseAfter (prune ops)
  branches : t.Remembers ops s.branches
  drawn : drawn = t.drawing ops

theorem Turtle.Retraces.step (h : t.Retraces ops s drawn) (hn : 0 < t.compass.directions)
    (hmax : t.compass.directions.toNat ≤ 2 ^ 63) (hlegal : Legal ops) {op : Op} {a : Advance}
    (hstep : s.Step t op a) : t.Retraces (ops ++ [op]) a.state (drawn ++ a.drawn.toList) where
  pose := pose_step hn hmax h.pose h.branches hstep
  branches := remembers_step h.pose h.branches hstep
  drawn := by rw [h.drawn, drawing_step hn h.pose hlegal hstep]

theorem Turtle.Reaches.retraces (h : t.Reaches ops s drawn) (hn : 0 < t.compass.directions)
    (hmax : t.compass.directions.toNat ≤ 2 ^ 63) : t.Retraces ops s drawn := by
  induction h with
  | start =>
    refine ⟨?_, .level Op.balanced_nil, rfl⟩
    rw [Op.prune_nil, poseAfter, Compass.headingAfter_nil]
    rfl
  | step hops hstep ih => exact ih.step hn hmax hops.legal hstep

/-! ## What a walk draws -/

theorem Turtle.drawn_courseOf (hn : 0 < t.compass.directions)
    (hmax : t.compass.directions.toNat ≤ 2 ^ 63) (word : List Char) :
    (t.courseOf word).drawn = t.drawing (t.operations word) := by
  rcases course_cases hn (t.operations word) with
    ⟨s, drawn, hs, hcourse⟩ | ⟨u, v, s, drawn, hops, hu, hlevel, hcourse⟩
  · rw [courseOf, hcourse]
    exact (hs.retraces hn hmax).drawn
  · rw [courseOf, hcourse, hops, drawing, Op.strokes_append_pop hlevel]
    exact (hu.retraces hn hmax).drawn

/-- **The drawing and the last pose of a walk, without a stack.** A sink that takes every segment is
handed exactly the drawing of the operations, in its order. A walk that comes to its end stands at
the pose after its pruned operations. -/
theorem Turtle.walk_eq_drawing {σ : Type} (t : Turtle) (hn : 0 < t.compass.directions)
    (hmax : t.compass.directions.toNat ≤ 2 ^ 63) (sink : Sink σ) (hsink : sink.Reliable)
    (received : σ) (word : List Char) :
    (t.walk sink received word).received
        = (sink.emitAll received (t.drawing (t.operations word))).1 ∧
      ∀ report, (t.walk sink received word).result = .ok report →
        report.final = t.poseAfter (prune (t.operations word)) := by
  rw [walk_of_reliable t hsink, drawn_courseOf hn hmax]
  rcases course_cases hn (t.operations word) with
    ⟨s, drawn, hs, hcourse⟩ | ⟨u, v, s, drawn, hops, hu, hlevel, hcourse⟩
  · rw [courseOf, hcourse, Course.conclude]
    refine ⟨rfl, fun report h ↦ ?_⟩
    cases h
    exact (hs.retraces hn hmax).pose
  · rw [courseOf, hcourse, Course.conclude]
    refine ⟨rfl, fun report h ↦ ?_⟩
    cases h

/-- A branch inside a branch, then a branch that stays open: segments inside a branch start behind
what is open there, and those behind it as if it had not been. A right angle is rounded and its cosine
is no zero, so two of the segments end beside the grid. -/
theorem Turtle.walk_eq_drawing_nested :
    let t : Turtle := ⟨⟨4⟩, Turtle.defaultStep, .conventional⟩
    let word := "F[+f[|F]F]-[F".toList
    let drawn := (t.walk .collect #[] word).received.toList
    0 < t.compass.directions ∧ t.compass.directions.toNat ≤ 2 ^ 63 ∧ Sink.collect.Reliable ∧
      drawn =
        [t.segmentAfter [],
          t.segmentAfter [.draw, .push, .turn .right, .move, .push, .turn .around],
          t.segmentAfter [.draw, .push, .turn .right, .move],
          t.segmentAfter [.draw, .turn .left, .push]] ∧
      drawn.map (fun s ↦ s.coordinates.map Float32.toBits) =
        [[0, 0, 0x3f800000, 0],
          [0x3f800000, 0xbf800000, 0x3f7fffff, 0],
          [0x3f800000, 0xbf800000, 0x3f800000, 0xc0000000],
          [0x3f800000, 0, 0x3f7fffff, 0x3f800000]] := by
  intro t word drawn
  have hn : 0 < t.compass.directions := by decide
  have hmax : t.compass.directions.toNat ≤ 2 ^ 63 := by decide
  have hstrokes : Op.strokes (t.operations word) =
      [[], [.draw, .push, .turn .right, .move, .push, .turn .around],
        [.draw, .push, .turn .right, .move], [.draw, .turn .left, .push]] := by decide
  have hdrawn : drawn = t.drawing (t.operations word) := by
    change (t.walk .collect #[] word).received.toList = _
    rw [(t.walk_eq_drawing hn hmax .collect Sink.reliable_collect #[] word).1,
      Sink.fst_emitAll_collect, Array.toList_empty, List.nil_append]
  rw [Turtle.drawing, hstrokes] at hdrawn
  exact ⟨hn, hmax, Sink.reliable_collect, hdrawn, by decide +kernel⟩

end Lindenmayer
