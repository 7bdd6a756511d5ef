import Lindenmayer.Proofs.Walk.Extent
import Lindenmayer.Proofs.Walk.Matching
import Lindenmayer.Proofs.Walk.Outcome
import Lindenmayer.Proofs.Walk.Refusal

/-!
# Sibling branches

Two branches that begin at the same place can be drawn in either order. Each draws the same segments
bit for bit, and so does what follows; only their order in the drawing is another. The reports agree
in everything that is counted, and in the last pose.

## Boxes

The corners of a box are folds over the places in the order in which they are reached, and of two
numbers that compare equal such a fold keeps the one its order gives it. So the folds are not
compared at all. The two walks occupy the same places, and a corner is a least or a greatest
coordinate of these; two such corners compare equal.
-/

namespace Lindenmayer

open Op (depth Legal Balanced branch)

variable {t : Turtle} {u : List Op} {s s' : State} {drawn drawn' : List Segment}

/-! ## Two branches in either order -/

theorem Turtle.Reaches.append_branches (hn : 0 < t.compass.directions) {a b : List Op}
    (h : t.Reaches u s drawn) (ha : Balanced a) (hb : Balanced b) :
    ∃ last, t.Reaches (u ++ branch a ++ branch b) last (drawn ++
        (t.course u.length (.push :: a) s).drawn ++ (t.course u.length (.push :: b) s).drawn) ∧
      s.Matches last := by
  obtain ⟨middle, hmiddle, hmatch⟩ := h.append_branch hn ha
  obtain ⟨last, hlast, hmatch'⟩ := hmiddle.append_branch hn hb
  rw [← (hmatch.course (.push :: b) u.length _).1] at hlast
  exact ⟨last, hlast, hmatch.trans hmatch'⟩

section Siblings

variable (hn : 0 < t.compass.directions) {a b v : List Op} (h : t.Reaches u s drawn)
  (ha : Balanced a) (hb : Balanced b)

include hn h ha hb

/-- A state on the way with two branches is matched on the way with the branches in the other
order: by the one behind the same operations since the branches began or ended. -/
theorem Turtle.Reaches.exists_matches {x : List Op}
    (hx : x <+: u ++ branch a ++ branch b ++ v) (hreach : t.Reaches x s' drawn') :
    ∃ y last all, y <+: u ++ branch b ++ branch a ++ v ∧ t.Reaches y last all ∧
      s'.Matches last := by
  rcases Op.prefix_append_iff.mp hx with hx | ⟨rest, hrest, rfl⟩
  · rcases Op.prefix_append_iff.mp hx with hx | ⟨rest, hrest, rfl⟩
    · rcases Op.prefix_append_iff.mp hx with hx | ⟨rest, hrest, rfl⟩
      · exact ⟨x, s', drawn', hx.trans ⟨branch b ++ branch a ++ v, by simp⟩, hreach, rfl, rfl⟩
      · -- inside the branch that is now the second one
        obtain ⟨middle, hmiddle, hmatch⟩ := h.append_branch hn hb
        obtain ⟨last, all, hlast, hmatch'⟩ := hmatch.reaches_append h hmiddle hreach
        have hpre := (List.prefix_append_right_inj (u ++ branch b)).mpr hrest
        exact ⟨_, last, all, hpre.trans (List.prefix_append _ v), hlast, hmatch'⟩
    · -- inside the branch that is now the first one
      obtain ⟨middle, hmiddle, hmatch⟩ := h.append_branch hn ha
      obtain ⟨last, all, hlast, hmatch'⟩ := hmatch.symm.reaches_append hmiddle h hreach
      have hpre := (List.prefix_append_right_inj u).mpr hrest
      exact ⟨_, last, all, hpre.trans ⟨branch a ++ v, by simp⟩, hlast, hmatch'⟩
  · -- behind both branches
    obtain ⟨middle, hmiddle, hmatch⟩ := h.append_branches hn ha hb
    obtain ⟨middle', hmiddle', hmatch'⟩ := h.append_branches hn hb ha
    obtain ⟨last, all, hlast, hlast'⟩ :=
      (hmatch.symm.trans hmatch').reaches_append hmiddle hmiddle' hreach
    have hpre := (List.prefix_append_right_inj (u ++ branch b ++ branch a)).mpr hrest
    exact ⟨_, last, all, hpre, hlast, hlast'⟩

theorem Turtle.Reaches.depth_siblings_le {last : State} {all : List Segment}
    (hlast : t.Reaches (u ++ branch a ++ branch b ++ v) last all) :
    depth (u ++ branch a ++ branch b ++ v) ≤ depth (u ++ branch b ++ branch a ++ v) := by
  rw [Op.depth_le_iff]
  intro x hx
  obtain ⟨rest, hrest⟩ := hx
  rw [← hrest] at hlast
  obtain ⟨s', drawn', hs'⟩ := hlast.of_append
  obtain ⟨y, last', all', hy, hlast', hmatch⟩ := h.exists_matches hn ha hb ⟨rest, hrest⟩ hs'
  rw [← hs'.length_branches, ← hmatch.branches, hlast'.length_branches]
  exact Op.height_le_depth hy

theorem Turtle.Reaches.places_siblings_subset (hfinite : t.step.isFinite = true)
    {one other : List Char} (hone : t.operations one = u ++ branch a ++ branch b ++ v)
    (hother : t.operations other = u ++ branch b ++ branch a ++ v) :
    t.places one ⊆ t.places other := by
  rintro _ (_ | ⟨hpre, -, hresult⟩)
  · exact Occupies.origin
  · obtain ⟨s', drawn', hs', rfl⟩ := exists_reaches_of_walk hresult
    have hx := hpre.map t.lexicon
    rw [← operations, ← operations, hone] at hx
    obtain ⟨y, last, all, hy, hlast, hmatch⟩ := h.exists_matches hn ha hb hx hs'
    -- the matching state is one behind a prefix of the other word
    have htake : y = t.operations (other.take y.length) := by
      rw [operations, List.map_take, ← operations, hother]
      exact List.prefix_iff_eq_take.mp hy
    rw [htake] at hlast
    have hpose := (Reaches.boxed hfinite hlast).pose
    rw [hmatch.pose] at hpose
    exact places_subset (List.take_prefix _ _) hpose

theorem Turtle.Reaches.course_siblings :
    ∃ outcome outcome' : Except Error State,
      t.course 0 (u ++ branch a ++ branch b ++ v) State.start =
        ⟨drawn ++ (t.course u.length (.push :: a) s).drawn ++
          (t.course u.length (.push :: b) s).drawn ++ (t.course u.length v s).drawn, outcome⟩ ∧
      t.course 0 (u ++ branch b ++ branch a ++ v) State.start =
        ⟨drawn ++ (t.course u.length (.push :: b) s).drawn ++
          (t.course u.length (.push :: a) s).drawn ++ (t.course u.length v s).drawn, outcome'⟩ ∧
      ((∃ i, outcome = .error (.underflow i) ∧ outcome' = .error (.underflow i)) ∨
        ∃ last last', outcome = .ok last ∧ outcome' = .ok last' ∧ last.Matches last') := by
  obtain ⟨middle, hmiddle, hmatch⟩ := h.append_branches hn ha hb
  obtain ⟨middle', hmiddle', hmatch'⟩ := h.append_branches hn hb ha
  have hcourse := hmiddle.course_append v
  have hcourse' := hmiddle'.course_append v
  have hlength : (u ++ branch b ++ branch a).length = (u ++ branch a ++ branch b).length := by
    simp
    omega
  rw [← (hmatch.course v u.length _).1] at hcourse
  rw [← (hmatch'.course v u.length _).1, hlength] at hcourse'
  refine ⟨_, _, hcourse, hcourse', ?_⟩
  -- what follows the branches begins at the same index both times
  rcases ((hmatch.symm.trans hmatch').course v _ _).2 with
    ⟨last, last', hlast, hlast', hends⟩ | ⟨e, e', he, he', heq⟩
  · exact Or.inr ⟨last, last', hlast, hlast', hends⟩
  · obtain rfl := heq rfl
    have herror := (congrArg Course.outcome hcourse).trans he
    obtain ⟨i, rfl⟩ := eq_underflow_of_course hn herror
    exact Or.inl ⟨i, he, he'⟩

theorem Turtle.Reaches.report_siblings {one other : List Char}
    (hone : t.operations one = u ++ branch a ++ branch b ++ v)
    (hother : t.operations other = u ++ branch b ++ branch a ++ v)
    {last last' : State} {all all' : List Segment} (hlast : t.Reaches (t.operations one) last all)
    (hlast' : t.Reaches (t.operations other) last' all') (hmatch : last.Matches last') :
    last'.report = { last.report with lower := last'.lower, upper := last'.upper } ∧
      last'.event = last.event ∧
      (t.step.isFinite = true →
        last.lower.coincides last'.lower = true ∧ last.upper.coincides last'.upper = true) := by
  have hcount : ∀ op, (t.operations other).count op = (t.operations one).count op := by
    intro op
    rw [hone, hother]
    simp only [List.count_append]
    omega
  have hdepth : depth (t.operations other) = depth (t.operations one) := by
    rw [hone] at hlast ⊢
    rw [hother] at hlast' ⊢
    exact le_antisymm (h.depth_siblings_le hn hb ha hlast')
      (h.depth_siblings_le hn ha hb hlast)
  have hsegments : last'.segments = last.segments := by
    rw [hlast'.tally.segments, hlast.tally.segments, hcount]
  have hmoves : last'.moves = last.moves := by
    rw [hlast'.tally.moves, hlast.tally.moves, hcount]
  have hmaxDepth : last'.maxDepth = last.maxDepth := by
    rw [hlast'.tally.maxDepth, hlast.tally.maxDepth, hdepth]
  refine ⟨?_, ?_, ?_⟩
  · simp [State.report, hsegments, hmoves, hmaxDepth, hmatch.pose]
  · simp [State.event, hsegments, hmoves, hmaxDepth, hmatch.branches]
  · intro hfinite
    have hplaces : t.places one = t.places other :=
      (h.places_siblings_subset hn ha hb hfinite hone hother).antisymm
        (h.places_siblings_subset hn hb ha hfinite hother hone)
    have hbox := Reaches.boxed hfinite hlast
    have hbox' := Reaches.boxed hfinite hlast'
    obtain ⟨hlowerx, hupperx⟩ := hbox.x.beq (hplaces ▸ hbox'.x)
    obtain ⟨hlowery, huppery⟩ := hbox.y.beq (hplaces ▸ hbox'.y)
    simp [Point.coincides, hlowerx, hlowery, hupperx, huppery]

end Siblings

theorem Turtle.course_append_of_not_legal (hn : 0 < t.compass.directions) (hnot : ¬Legal u) :
    ∃ drawn i, ∀ rest, t.course 0 (u ++ rest) State.start = ⟨drawn, .error (.underflow i)⟩ := by
  rcases course_cases hn u with ⟨s, drawn, hs, -⟩ | ⟨x, y, s, drawn, rfl, hx, hlevel, -⟩
  · exact absurd hs.legal hnot
  · refine ⟨drawn, x.length, ?_⟩
    intro rest
    rw [List.append_assoc, List.cons_append, hx.course_append_pop hlevel]

/-- The two drawings have the same parts, each as it is drawn without the others. -/
theorem Turtle.exists_parts (hn : 0 < t.compass.directions) {a b : List Op} (ha : Balanced a)
    (hb : Balanced b) (u v : List Op) :
    ∃ (s₁ sa sb s₂ : List Segment) (outcome outcome' : Except Error State),
      (t.course 0 u State.start).drawn = s₁ ∧
      (t.course 0 (u ++ .push :: a) State.start).drawn = s₁ ++ sa ∧
      (t.course 0 (u ++ .push :: b) State.start).drawn = s₁ ++ sb ∧
      (t.course 0 (u ++ v) State.start).drawn = s₁ ++ s₂ ∧
      t.course 0 (u ++ branch a ++ branch b ++ v) State.start =
        ⟨s₁ ++ sa ++ sb ++ s₂, outcome⟩ ∧
      t.course 0 (u ++ branch b ++ branch a ++ v) State.start =
        ⟨s₁ ++ sb ++ sa ++ s₂, outcome'⟩ ∧
      ((∃ i, outcome = .error (.underflow i) ∧ outcome' = .error (.underflow i)) ∨
        ∃ last last', outcome = .ok last ∧ outcome' = .ok last' ∧ last.Matches last') := by
  by_cases hlegal : Legal u
  · obtain ⟨s, drawn, h⟩ := t.exists_reaches_of_legal hn hlegal
    obtain ⟨outcome, outcome', hcourse, hcourse', hends⟩ := h.course_siblings hn ha hb (v := v)
    refine ⟨drawn, (t.course u.length (.push :: a) s).drawn,
      (t.course u.length (.push :: b) s).drawn, (t.course u.length v s).drawn, outcome, outcome',
      ?_, ?_, ?_, ?_, hcourse, hcourse', hends⟩
    · rw [h.course_eq]
    · rw [h.course_append]
    · rw [h.course_append]
    · rw [h.course_append]
  · -- both ways end before the branches
    obtain ⟨drawn, i, hstop⟩ := course_append_of_not_legal hn hlegal
    have hstop' := hstop []
    rw [List.append_nil] at hstop'
    refine ⟨drawn, [], [], [], .error (.underflow i), .error (.underflow i), ?_⟩
    simp only [List.append_assoc, hstop, hstop', List.append_nil, true_and]
    exact Or.inl ⟨i, rfl, rfl⟩

theorem Turtle.operations_branch {p q : Char} (hp : t.lexicon p = .push) (hq : t.lexicon q = .pop)
    (a : List Char) : t.operations (p :: a ++ [q]) = branch (t.operations a) := by
  simp [operations, branch, hp, hq]

/-- **Sibling branches are independent.** With two balanced branches in the one order or the other,
the drawing has the same four parts: that of what comes before, that of each branch, and that of
what comes behind, each as it is drawn without the branches or without the other branch. Either both
walks underflow, at the same index, or both come to their end with the same counts, depths and pose,
and with boxes that coincide if the step is finite. -/
theorem Turtle.walk_siblings (t : Turtle) (hn : 0 < t.compass.directions) {u a b v : List Char}
    {p q p' q' : Char} (hp : t.lexicon p = .push) (hq : t.lexicon q = .pop)
    (hp' : t.lexicon p' = .push) (hq' : t.lexicon q' = .pop)
    (ha : Balanced (t.operations a)) (hb : Balanced (t.operations b)) :
    let one := u ++ (p :: a ++ [q]) ++ (p' :: b ++ [q']) ++ v
    let other := u ++ (p' :: b ++ [q']) ++ (p :: a ++ [q]) ++ v
    let drawn := fun word ↦ (t.walk .collect #[] word).received.toList
    ∃ s₁ sa sb s₂, drawn u = s₁ ∧ drawn (u ++ p :: a) = s₁ ++ sa ∧
      drawn (u ++ p' :: b) = s₁ ++ sb ∧ drawn (u ++ v) = s₁ ++ s₂ ∧
      ∀ (σ : Type) (sink : Sink σ), sink.Reliable → ∀ received : σ,
        let walk := t.walk sink received one
        let walk' := t.walk sink received other
        walk.received = (sink.emitAll received (s₁ ++ sa ++ sb ++ s₂)).1 ∧
        walk'.received = (sink.emitAll received (s₁ ++ sb ++ sa ++ s₂)).1 ∧
        ((∃ i, walk.result = .error (.underflow i) ∧ walk'.result = .error (.underflow i)) ∨
          ∃ report lower upper unclosed, walk.result = .ok report ∧
            walk'.result = .ok { report with lower := lower, upper := upper } ∧
            walk.log = [.walked report.segments report.moves report.maxDepth unclosed] ∧
            walk'.log = walk.log ∧
            (t.step.isFinite = true →
              report.lower.coincides lower = true ∧ report.upper.coincides upper = true)) := by
  intro one other drawn
  have hone : t.operations one = t.operations u ++ branch (t.operations a) ++
      branch (t.operations b) ++ t.operations v := by
    rw [← operations_branch hp hq a, ← operations_branch hp' hq' b]
    simp [one, operations]
  have hother : t.operations other = t.operations u ++ branch (t.operations b) ++
      branch (t.operations a) ++ t.operations v := by
    rw [← operations_branch hp hq a, ← operations_branch hp' hq' b]
    simp [other, operations]
  have hdrawn : ∀ word, drawn word = (t.course 0 (t.operations word) State.start).drawn :=
    t.toList_received_collect
  have hpa : t.operations (u ++ p :: a) = t.operations u ++ .push :: t.operations a := by
    simp [operations, hp]
  have hpb : t.operations (u ++ p' :: b) = t.operations u ++ .push :: t.operations b := by
    simp [operations, hp']
  have huv : t.operations (u ++ v) = t.operations u ++ t.operations v := List.map_append
  obtain ⟨s₁, sa, sb, s₂, outcome, outcome', hu, hua, hub, hv, hcourse, hcourse', hends⟩ :=
    t.exists_parts hn ha hb (t.operations u) (t.operations v)
  rw [← hone] at hcourse
  rw [← hother] at hcourse'
  refine ⟨s₁, sa, sb, s₂, ?_, ?_, ?_, ?_, ?_⟩
  · rw [hdrawn, hu]
  · rw [hdrawn, hpa, hua]
  · rw [hdrawn, hpb, hub]
  · rw [hdrawn, huv, hv]
  · intro σ sink hsink received walk walk'
    have hwalk : walk = Course.conclude _ _ := t.walk_of_reliable hsink received one
    have hwalk' : walk' = Course.conclude _ _ := t.walk_of_reliable hsink received other
    rw [courseOf, hcourse] at hwalk
    rw [courseOf, hcourse'] at hwalk'
    rw [hwalk, hwalk']
    refine ⟨Course.received_conclude _ _ _, Course.received_conclude _ _ _, ?_⟩
    rcases hends with ⟨i, rfl, rfl⟩ | ⟨last, last', rfl, rfl, hmatch⟩
    · exact Or.inl ⟨i, rfl, rfl⟩
    · obtain ⟨all, hlast⟩ := Reaches.start.of_course (congrArg Course.outcome hcourse)
      obtain ⟨all', hlast'⟩ := Reaches.start.of_course (congrArg Course.outcome hcourse')
      rw [List.nil_append] at hlast hlast'
      obtain ⟨s, du, h⟩ : ∃ s du, t.Reaches (t.operations u) s du := by
        rw [hone, List.append_assoc, List.append_assoc] at hlast
        exact hlast.of_append
      obtain ⟨hreport, hevent, hbox⟩ :=
        h.report_siblings hn ha hb hone hother hlast hlast' hmatch
      exact Or.inr ⟨last.report, last'.lower, last'.upper, last.branches.length, rfl,
        congrArg Except.ok hreport, rfl, congrArg (fun e ↦ [e]) hevent, hbox⟩

/-- Branches of different depths, each with a branch in it, within one that is closed later. -/
theorem Turtle.walk_siblings_nested :
    let t : Turtle := ⟨⟨6⟩, Turtle.defaultStep, .conventional⟩
    let u := "F[+F".toList
    let a := "+F[-F]F".toList
    let b := "-[f[F]]F".toList
    let v := "F|f]F".toList
    let one := t.walk .collect #[] (u ++ ('[' :: a ++ [']']) ++ ('[' :: b ++ [']']) ++ v)
    let other := t.walk .collect #[] (u ++ ('[' :: b ++ [']']) ++ ('[' :: a ++ [']']) ++ v)
    0 < t.compass.directions ∧ Balanced (t.operations a) ∧ Balanced (t.operations b) ∧
      t.step.isFinite = true ∧
      ∃ s₁ sa sb s₂ report lower upper, sa.length = 3 ∧ sb.length = 2 ∧
        one.received.toList = s₁ ++ sa ++ sb ++ s₂ ∧
        other.received.toList = s₁ ++ sb ++ sa ++ s₂ ∧
        one.result = .ok report ∧ report.maxDepth = 4 ∧ report.moves = 2 ∧
        other.result = .ok { report with lower := lower, upper := upper } ∧
        report.lower.coincides lower = true ∧ report.upper.coincides upper = true := by
  intro t u a b v one other
  have hn : 0 < t.compass.directions := by decide
  have ha : Balanced (t.operations a) := by decide
  have hb : Balanced (t.operations b) := by decide
  have hfinite : t.step.isFinite = true := by decide +kernel
  have hpush : t.lexicon '[' = .push := rfl
  have hpop : t.lexicon ']' = .pop := rfl
  obtain ⟨s₁, sa, sb, s₂, hu, hua, hub, -, hwalks⟩ :=
    t.walk_siblings (u := u) (v := v) hn hpush hpop hpush hpop ha hb
  obtain ⟨hone, hother, hends⟩ := hwalks _ .collect Sink.reliable_collect #[]
  have hlength : s₁.length = 2 := by
    rw [← hu]
    decide +kernel
  have hlengtha : s₁.length + sa.length = 5 := by
    rw [← List.length_append, ← hua]
    decide +kernel
  have hlengthb : s₁.length + sb.length = 4 := by
    rw [← List.length_append, ← hub]
    decide +kernel
  have hcounts : (one.result.toOption.map fun r ↦ (r.maxDepth, r.moves)) = some (4, 2) := by
    decide +kernel
  rcases hends with ⟨i, hresult, -⟩ | ⟨report, lower, upper, -, hresult, hresult', -, -, hbox⟩
  · have herror : one.result = .error (.underflow i) := hresult
    simp [herror, Except.toOption] at hcounts
  · have hok : one.result = .ok report := hresult
    simp only [hok, Except.toOption, Option.map_some, Option.some.injEq, Prod.mk.injEq] at hcounts
    refine ⟨hn, ha, hb, hfinite, s₁, sa, sb, s₂, report, lower, upper, by omega, by omega, ?_, ?_,
      hok, hcounts.1, hcounts.2, hresult', hbox hfinite⟩
    · exact (congrArg Array.toList hone).trans (Sink.fst_emitAll_collect #[] _)
    · exact (congrArg Array.toList hother).trans (Sink.fst_emitAll_collect #[] _)

end Lindenmayer
