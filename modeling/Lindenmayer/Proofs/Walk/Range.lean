import Lindenmayer.Proofs.Source.RoundTrip
import Lindenmayer.Proofs.Turn.Cyclic
import Lindenmayer.Proofs.Walk.Outcome

/-!
# Walks stay in range

What a walk computes between two symbols has a range: a heading is looked up on the compass, the sum
of a turn is formed in 64 bits and reduced by the number of directions, and the counters go up with
the symbols. With at least one and at most `2 ^ 63` directions nothing ever leaves its range. So a
walk has three ends and no other: it comes to the end of its word, it closes a branch that has not
begun, or its sink fails.

## Remembered headings

The headings of the remembered poses are part of the invariant, though nothing is computed from them
while they are remembered. A heading off the compass would do no harm at the start of a branch, nor
at its end; it would at the next step behind that. So a state is in range only if all the poses that
it can go back to are.

## What leaving the range would look like

A look-up off the compass is an error, and that a walk has no such end is a fact about its result. A
sum that does not fit is no error, since it wraps, nor is a number of directions that is zero. Of
those it is said that they do not occur: the exact sum is below `2 ^ 64`, and the heading after a
turn is the residue of exact integers. Counters are natural numbers, and they are bounded by the
symbols that were read.
-/

namespace Lindenmayer

open Op (height depth)

/-! ## Turns -/

/-- A turn from a heading stays in range. -/
structure Turn.Fits (n h : UInt64) (u : Turn) : Prop where
  /-- The heading behind the turn is reduced from the sum, in 64 bits; a right turn takes off one
  before. -/
  heading_eq : u.heading n h = (.ofNat (u.sum n h) - if u = .right then 1 else 0) % n
  /-- The sum fits in 64 bits. -/
  sum_lt : u.sum n h < 2 ^ 64
  /-- Where one is taken off, the sum is not zero. -/
  one_le : u = .right → 1 ≤ u.sum n h
  /-- There are directions to reduce the sum by. -/
  directions_ne_zero : n ≠ 0
  /-- What is computed is the residue of exact integers. -/
  residue : ((u.heading n h).toNat : ℤ) = (h.toNat + u.quanta n.toNat) % n.toNat

theorem Turn.fits {n h : UInt64} (hn : 0 < n) (hmax : n.toNat ≤ 2 ^ 63) (hh : h < n) (u : Turn) :
    u.Fits n h where
  heading_eq := heading_eq_ofNat_sum n h u
  sum_lt := u.sum_lt hmax hh
  one_le := by
    rintro rfl
    rw [UInt64.lt_iff_toNat_lt, UInt64.toNat_zero] at hn
    rw [sum]
    omega
  directions_ne_zero := UInt64.pos_iff_ne_zero.mp hn
  residue := u.toNat_heading hmax hh

/-! ## Counters -/

namespace Op

theorem depth_le_count_push (ops : List Op) : depth ops ≤ ops.count .push := by
  rw [depth_le_iff]
  intro u hu
  have hcount : u.count .push ≤ ops.count .push := hu.sublist.count_le _
  rw [height]
  omega

theorem count_draw_add_count_move_add_count_push_le (ops : List Op) :
    ops.count .draw + ops.count .move + ops.count .push ≤ ops.length := by
  induction ops with
  | nil => rfl
  | cons op ops ih =>
    rw [List.count_cons, List.count_cons, List.count_cons, List.length_cons]
    rcases op with - | - | - | - | - | - <;> simp <;> omega

end Op

variable {t : Turtle} {ops : List Op} {s : State} {drawn : List Segment}

theorem Tally.le_length (h : Tally ops s drawn) :
    s.segments + s.moves + s.maxDepth ≤ ops.length := by
  have hdepth := Op.depth_le_count_push ops
  have hkinds := Op.count_draw_add_count_move_add_count_push_le ops
  rw [h.segments, h.moves, h.maxDepth]
  omega

theorem Turtle.Reaches.length_branches_le (h : t.Reaches ops s drawn) :
    s.branches.length ≤ s.maxDepth := by
  rw [h.tally.maxDepth, ← Int.ofNat_le, h.length_branches]
  exact Op.height_le_depth (List.prefix_refl ops)

/-! ## States -/

/-- A state behind the given number of symbols is in range: to go on from it needs nothing that is
out of range, whatever comes next, and neither will the poses that it can go back to. -/
structure State.InRange (t : Turtle) (consumed : ℕ) (s : State) : Prop where
  /-- Each heading, also a remembered one, is below the number of directions. -/
  onCompass : s.OnCompass t.compass
  /-- Each heading is found on the compass. -/
  unit : ∀ p ∈ s.pose :: s.branches,
    t.compass.unit? p.heading = some (t.compass.vector p.heading)
  /-- Each turn from each heading stays in range. -/
  turn : ∀ p ∈ s.pose :: s.branches, ∀ u : Turn, u.Fits t.compass.directions p.heading
  /-- Each operation can be carried out, but for the end of a branch that has not begun. -/
  apply : ∀ op, (∃ a, s.apply t consumed op = .ok a) ∨
    op = .pop ∧ s.branches = [] ∧ s.apply t consumed op = .error (.underflow consumed)
  /-- The branches that are open were counted. -/
  length_branches : s.branches.length ≤ s.maxDepth
  /-- Nothing was counted that was not read. -/
  counters : s.segments + s.moves + s.maxDepth ≤ consumed

theorem State.OnCompass.heading_lt {c : Compass} (h : s.OnCompass c) :
    ∀ p ∈ s.pose :: s.branches, p.heading < c.directions :=
  List.forall_mem_cons.mpr ⟨h.pose, h.branches⟩

theorem State.OnCompass.apply_cases (h : s.OnCompass t.compass) (index : ℕ) (op : Op) :
    (∃ a, s.apply t index op = .ok a) ∨
      op = .pop ∧ s.branches = [] ∧ s.apply t index op = .error (.underflow index) := by
  cases hstep : s.apply t index op with
  | ok a => exact .inl ⟨a, rfl⟩
  | error e =>
    rcases apply_eq_error hstep with ⟨hop, hnil, rfl⟩ | hoff
    · exact .inr ⟨hop, hnil, rfl⟩
    · rw [Turtle.ahead?_of_lt h.pose] at hoff
      cases hoff

theorem Turtle.Reaches.inRange (h : t.Reaches ops s drawn) (hn : 0 < t.compass.directions)
    (hmax : t.compass.directions.toNat ≤ 2 ^ 63) : s.InRange t ops.length where
  onCompass := h.onCompass hn
  unit p hp := if_pos ((h.onCompass hn).heading_lt p hp)
  turn p hp := Turn.fits hn hmax ((h.onCompass hn).heading_lt p hp)
  apply := (h.onCompass hn).apply_cases ops.length
  length_branches := h.length_branches_le
  counters := h.tally.le_length

/-! ## Walks -/

variable {σ : Type} {sink : Sink σ}

/-- A walk along a longer word goes through the state that it comes to along a shorter one. -/
theorem Turtle.walkFrom_append {index : ℕ} {word : List Char} {last : State} {received received' : σ}
    (h : t.walkFrom sink index word s received = (.ok last, received')) (rest : List Char) :
    t.walkFrom sink index (word ++ rest) s received =
      t.walkFrom sink (index + word.length) rest last received' := by
  induction word generalizing index s received with
  | nil =>
    cases h
    rfl
  | cons c word ih =>
    rw [walkFrom] at h
    rw [List.cons_append, walkFrom, List.length_cons, Nat.add_comm word.length, ← Nat.add_assoc]
    cases hstep : s.apply t index (t.lexicon c) with
    | error e =>
      rw [hstep] at h
      cases h
    | ok a =>
      obtain ⟨next, segment | segment⟩ := a
      · rw [hstep] at h
        exact ih h
      · simp only [hstep] at h ⊢
        rcases hemit : sink.emit received segment with ⟨taken, failure | failure⟩
        · rw [hemit] at h
          exact ih h
        · rw [hemit] at h
          cases h

theorem Turtle.result_walk_cases (hn : 0 < t.compass.directions) (sink : Sink σ) (received : σ)
    (word : List Char) :
    (∃ report, (t.walk sink received word).result = .ok report) ∨
      (∃ i, i < word.length ∧ (t.walk sink received word).result = .error (.underflow i)) ∨
      ∃ failure, (t.walk sink received word).result = .error (.sink failure) := by
  rw [walk_eq_conclude]
  rcases sink.feed received (t.courseOf word).drawn with ⟨received', failure | failure⟩
  · rw [courseOf]
    rcases course_cases hn (t.operations word) with
      ⟨s, drawn, -, hcourse⟩ | ⟨u, v, s, drawn, hops, -, -, hcourse⟩
    · rw [hcourse]
      exact .inl ⟨s.report, rfl⟩
    · rw [hcourse]
      have hlength : word.length = u.length + (v.length + 1) := by
        rw [← t.length_operations, hops, List.length_append, List.length_cons]
      exact .inr (.inl ⟨u.length, by omega, rfl⟩)
  · exact .inr (.inr ⟨failure, rfl⟩)

/-- Whatever the word and the sink, a walk of the turtle never leaves its range. -/
structure Turtle.StaysInRange (t : Turtle) : Prop where
  /-- A walk goes through the states that it comes to along the initial parts of its word, and these
  are in range behind the symbols read by then. -/
  states : ∀ {σ : Type} (sink : Sink σ) (received : σ) (word rest : List Char) (s : State)
    (received' : σ), t.walkFrom sink 0 word State.start received = (.ok s, received') →
      t.walkFrom sink 0 (word ++ rest) State.start received =
          t.walkFrom sink word.length rest s received' ∧
        s.InRange t word.length
  /-- A walk has a report, or ends a branch that has not begun, at a symbol of its word, or its sink
  fails. -/
  result : ∀ {σ : Type} (sink : Sink σ) (received : σ) (word : List Char),
    (∃ report, (t.walk sink received word).result = .ok report) ∨
      (∃ i, i < word.length ∧ (t.walk sink received word).result = .error (.underflow i)) ∨
      ∃ failure, (t.walk sink received word).result = .error (.sink failure)

theorem Turtle.staysInRange (hn : 0 < t.compass.directions)
    (hmax : t.compass.directions.toNat ≤ 2 ^ 63) : t.StaysInRange where
  states sink received word rest s received' h := by
    obtain ⟨drawn, hreach⟩ := exists_reaches_of_walkFrom h
    have hrange := hreach.inRange hn hmax
    rw [length_operations] at hrange
    have hthrough := walkFrom_append h rest
    rw [Nat.zero_add] at hthrough
    exact ⟨hthrough, hrange⟩
  result := result_walk_cases hn

/-- **Walks stay in range.** A turtle with at least one and at most `2 ^ 63` directions never leaves
its range, whatever its step, its lexicon, its word and its sink are. Each grammar that is read from
a text has such a turtle, and another lexicon makes no difference to that. -/
theorem Turtle.walk_inRange :
    (∀ t : Turtle, 0 < t.compass.directions → t.compass.directions.toNat ≤ 2 ^ 63 →
      t.StaysInRange) ∧
    ∀ (text : List Char) (g : Grammar), (Grammar.ofText text).value = .ok g → ∀ step : Float32,
      ∃ t, make g.directions step = .ok t ∧ t.compass.directions = g.directions ∧
        ∀ lexicon : Lexicon, StaysInRange { t with lexicon := lexicon } := by
  refine ⟨fun t ↦ staysInRange, fun text g hg step ↦ ?_⟩
  have hwell := Grammar.wellFormed_of_value_ofText hg
  exact ⟨_, make_eq_ok hwell.one_le_directions step, rfl, fun lexicon ↦
    staysInRange hwell.one_le_directions hwell.directions_lt.le⟩

/-- The greatest number of directions that is safe. The greatest heading is remembered while the
turtle, half of the directions further, takes a step; behind a turn from there the walk closes a
branch too many. A text gives one direction less at most. -/
theorem Turtle.walk_inRange_greatest :
    let t : Turtle := ⟨⟨9223372036854775808⟩, Turtle.defaultStep, .conventional⟩
    let word := "+[|F".toList
    let rest := "]-F]F".toList
    let g : Grammar := ⟨9223372036854775807, .empty, word⟩
    0 < t.compass.directions ∧ t.compass.directions.toNat ≤ 2 ^ 63 ∧
      (∃ s, t.walkFrom .discard 0 word State.start () = (.ok s, ()) ∧
        (s.pose :: s.branches).map Pose.heading = [4611686018427387903, 9223372036854775807] ∧
        t.walkFrom .discard 0 (word ++ rest) State.start () = t.walkFrom .discard 4 rest s () ∧
        s.InRange t 4) ∧
      (t.walk .discard () (word ++ rest)).result = .error (.underflow 7) ∧
      (Grammar.ofText "9223372036854775807 0 +[|F".toList).value = .ok g ∧
      ∃ t', make g.directions t.step = .ok t' ∧
        StaysInRange { t' with lexicon := .ofList [('|', .draw), ('F', .turn .around)] } := by
  intro t word rest g
  have hn : 0 < t.compass.directions := by decide
  have hmax : t.compass.directions.toNat ≤ 2 ^ 63 := by decide
  have hheadings : (t.walkFrom .discard 0 word State.start ()).1.map
      (fun s ↦ (s.pose :: s.branches).map Pose.heading) =
        .ok [4611686018427387903, 9223372036854775807] := by decide +kernel
  have hresult : (t.walk .discard () (word ++ rest)).result = .error (.underflow 7) := by
    decide +kernel
  have htext : (Grammar.ofText "9223372036854775807 0 +[|F".toList).value = .ok g := by
    decide +kernel
  refine ⟨hn, hmax, ?_, hresult, htext, ?_⟩
  · rcases hwalk : t.walkFrom .discard 0 word State.start () with ⟨e | s, received⟩
    · rw [hwalk] at hheadings
      cases hheadings
    · rw [hwalk] at hheadings
      obtain ⟨hthrough, hrange⟩ :=
        (walk_inRange.1 t hn hmax).states .discard () word rest s received hwalk
      exact ⟨s, rfl, Except.ok.inj hheadings, hthrough, hrange⟩
  · obtain ⟨t', hmake, -, hlexicon⟩ := walk_inRange.2 _ g htext t.step
    exact ⟨t', hmake, hlexicon _⟩

end Lindenmayer
