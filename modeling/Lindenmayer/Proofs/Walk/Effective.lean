import Lindenmayer.Proofs.Walk.Reached

/-!
# Effective operations

A symbol that does nothing is a stutter of the turtle. Two words that stand for the same operations
once those are erased, each in a lexicon of its own, are drawn alike by turtles with one compass and
one step: any sink is handed the same segments, and the reports and records are equal. Only an index
can tell the walks apart, since symbols are counted whether or not they do something.

## One walk at a time

Such walks go at different speeds, and to relate them step by step would need a rule for which of
them goes on. Each is related to its own effective operations instead: what operations reach, the
effective ones among them reach, and conversely. This is an equivalence for one walk, by induction
on its last operation, and two walks with the same effective operations meet in the middle.
-/

namespace Lindenmayer

open Op (height)

/-! ## Erasure -/

namespace Op

/-- The operations that do something. -/
def effective (ops : List Op) : List Op := ops.filter (· ≠ .ignore)

@[simp] theorem effective_nil : effective [] = [] := rfl

theorem effective_append (ops ops' : List Op) :
    effective (ops ++ ops') = effective ops ++ effective ops' := List.filter_append ..

theorem effective_cons_of_ne {op : Op} (h : op ≠ .ignore) (ops : List Op) :
    effective (op :: ops) = op :: effective ops := List.filter_cons_of_pos (decide_eq_true h)

theorem effective_cons_ignore (ops : List Op) : effective (.ignore :: ops) = effective ops :=
  List.filter_cons_of_neg (by decide)

/-- An effective operation is found in every sequence with the same effective operations, behind
those that are before it. -/
theorem exists_append_of_effective_eq {u v ops : List Op}
    (h : effective ops = effective (u ++ .pop :: v)) :
    ∃ u' v', ops = u' ++ .pop :: v' ∧ effective u' = effective u := by
  rw [effective_append, effective_cons_of_ne (by decide)] at h
  obtain ⟨before, behind, rfl, hbefore, hbehind⟩ := List.filter_eq_append_iff.mp h
  obtain ⟨idle, v', rfl, hidle, -⟩ := List.filter_eq_cons_iff.mp hbehind
  have hnil : effective idle = [] := List.filter_eq_nil_iff.mpr hidle
  refine ⟨before ++ idle, v', (List.append_assoc ..).symm, ?_⟩
  rw [effective_append, hnil, List.append_nil]
  exact hbefore

theorem eq_of_append_pop {u v u' v' : List Op} (h : u ++ .pop :: v = u' ++ .pop :: v')
    (heffective : effective u = effective u') : u = u' := by
  rcases List.append_eq_append_iff.mp h with ⟨a, rfl, ha⟩ | ⟨a, rfl, ha⟩ <;>
  rcases a with - | ⟨op, a⟩
  · exact (List.append_nil u).symm
  · obtain ⟨rfl, -⟩ := List.cons.inj ha
    rw [effective_append, effective_cons_of_ne (by decide)] at heffective
    exact absurd heffective.symm (by simp)
  · exact List.append_nil u'
  · obtain ⟨rfl, -⟩ := List.cons.inj ha
    rw [effective_append, effective_cons_of_ne (by decide)] at heffective
    exact absurd heffective (by simp)

end Op

open Op (effective)

/-! ## Courses -/

variable {t t' : Turtle} {ops ops' : List Op} {s : State} {drawn : List Segment}

/-- What operations lead to, the effective ones among them lead to, and conversely. -/
theorem Turtle.reaches_effective_iff :
    t.Reaches (effective ops) s drawn ↔ t.Reaches ops s drawn := by
  induction ops using List.reverseRecOn generalizing s drawn with
  | nil => exact Iff.rfl
  | append_singleton ops op ih =>
    by_cases hop : op = .ignore
    · subst hop
      rw [Op.effective_append, Op.effective_cons_ignore, Op.effective_nil, List.append_nil, ih]
      constructor
      · intro h
        have hnext := h.step .ignore
        rwa [Option.toList_none, List.append_nil] at hnext
      · intro h
        obtain ⟨s', drawn', a, hreach, hstep, rfl, rfl⟩ := h.exists_step
        cases hstep
        rwa [Option.toList_none, List.append_nil]
    · rw [Op.effective_append, Op.effective_cons_of_ne hop]
      constructor
      · intro h
        obtain ⟨s', drawn', a, hreach, hstep, rfl, rfl⟩ := h.exists_step
        exact (ih.mp hreach).step hstep
      · intro h
        obtain ⟨s', drawn', a, hreach, hstep, rfl, rfl⟩ := h.exists_step
        exact (ih.mpr hreach).step hstep

theorem Turtle.Reaches.of_effective_eq (h : t.Reaches ops s drawn)
    (heffective : effective ops' = effective ops) : t.Reaches ops' s drawn := by
  rwa [← reaches_effective_iff, heffective, reaches_effective_iff]

/-- **Courses of the same effective operations.** Both come to their ends, in one state, or both
stop, at ends of branches with the same effective operations before them. -/
theorem Turtle.course_cases_of_effective_eq (hn : 0 < t.compass.directions)
    (h : effective ops' = effective ops) :
    (∃ s drawn, t.course 0 ops State.start = ⟨drawn, .ok s⟩ ∧
        t.course 0 ops' State.start = ⟨drawn, .ok s⟩) ∨
      ∃ u v u' v' drawn, ops = u ++ .pop :: v ∧ ops' = u' ++ .pop :: v' ∧
        effective u' = effective u ∧
        t.course 0 ops State.start = ⟨drawn, .error (.underflow u.length)⟩ ∧
        t.course 0 ops' State.start = ⟨drawn, .error (.underflow u'.length)⟩ := by
  rcases course_cases hn ops with
    ⟨s, drawn, hs, hcourse⟩ | ⟨u, v, s, drawn, rfl, hu, hlevel, hcourse⟩
  · exact .inl ⟨s, drawn, hcourse, (hs.of_effective_eq h).course_eq⟩
  · obtain ⟨u', v', rfl, heq⟩ := Op.exists_append_of_effective_eq h
    have hu' := hu.of_effective_eq heq
    -- the poses remembered are the same ones, none
    have hlevel' : height u' = 0 := by rw [← hu'.length_branches, hu.length_branches, hlevel]
    exact .inr ⟨u, v, u', v', drawn, rfl, rfl, heq, hcourse, hu'.course_append_pop hlevel' v'⟩

theorem Turtle.course_congr (hcompass : t'.compass = t.compass) (hstep : t'.step = t.step)
    (index : ℕ) (ops : List Op) (s : State) : t'.course index ops s = t.course index ops s := by
  have happly : ∀ (index : ℕ) (op : Op) (s : State), s.apply t' index op = s.apply t index op := by
    intro index op s
    rcases op <;> simp only [State.apply, ahead?, hcompass, hstep]
  induction ops generalizing index s with
  | nil => rfl
  | cons op ops ih => simp only [course, happly, ih]

/-! ## Walks -/

/-- Walks along operations that differ in idle ones only: the sinks end up the same and the same is
recorded, and the walks end for the same reason. Where that is the end of a branch, the same
effective operations are before it. -/
structure Walk.Alike {σ : Type} (ops ops' : List Op) (w w' : Walk σ) : Prop where
  received : w'.received = w.received
  log : w'.log = w.log
  result : (∃ report, w.result = .ok report ∧ w'.result = .ok report) ∨
    (∃ failure, w.result = .error (.sink failure) ∧ w'.result = .error (.sink failure)) ∨
    ∃ u v u' v', ops = u ++ .pop :: v ∧ ops' = u' ++ .pop :: v' ∧ effective u' = effective u ∧
      w.result = .error (.underflow u.length) ∧ w'.result = .error (.underflow u'.length)

theorem Turtle.alike_of_effective_eq {σ : Type} (hn : 0 < t.compass.directions)
    (hcompass : t'.compass = t.compass) (hstep : t'.step = t.step) {word word' : List Char}
    (h : effective (t'.operations word') = effective (t.operations word)) (sink : Sink σ)
    (received : σ) :
    Walk.Alike (t.operations word) (t'.operations word') (t.walk sink received word)
      (t'.walk sink received word') := by
  rw [walk_eq_conclude, walk_eq_conclude, courseOf, courseOf, course_congr hcompass hstep]
  rcases course_cases_of_effective_eq hn h with
    ⟨s, drawn, hcourse, hcourse'⟩ | ⟨u, v, u', v', drawn, hu, hu', heq, hcourse, hcourse'⟩ <;>
  rw [hcourse, hcourse'] <;>
  rcases sink.feed received drawn with ⟨last, failure | failure⟩
  · exact ⟨rfl, rfl, .inl ⟨s.report, rfl, rfl⟩⟩
  · exact ⟨rfl, rfl, .inr (.inl ⟨failure, rfl, rfl⟩)⟩
  · exact ⟨rfl, rfl, .inr (.inr ⟨u, v, u', v', hu, hu', heq, rfl, rfl⟩)⟩
  · exact ⟨rfl, rfl, .inr (.inl ⟨failure, rfl, rfl⟩)⟩

/-! ## Idle symbols -/

/-- What is left of a word when its marked symbols are deleted. -/
def unmarked (marked : List (Char × Bool)) : List Char :=
  (marked.filter fun p ↦ !p.2).map Prod.fst

theorem length_unmarked_add (marked : List (Char × Bool)) :
    (unmarked marked).length + marked.countP Prod.snd = marked.length := by
  rw [unmarked, List.length_map, ← List.countP_eq_length_filter, Nat.add_comm,
    List.length_eq_countP_add_countP Prod.snd]
  simp

theorem unmarked_append_cons_false (marked rest : List (Char × Bool)) (c : Char) :
    unmarked (marked ++ (c, false) :: rest) = unmarked marked ++ c :: unmarked rest := by
  rw [unmarked, List.filter_append, List.filter_cons_of_pos (by simp), List.map_append,
    List.map_cons, unmarked, unmarked]

theorem Turtle.effective_unmarked {marked : List (Char × Bool)}
    (h : ∀ p ∈ marked, p.2 = true → t.lexicon p.1 = .ignore) :
    effective (t.operations (unmarked marked)) =
      effective (t.operations (marked.map Prod.fst)) := by
  rw [effective, effective, operations, operations, unmarked, List.filter_map, List.filter_map,
    List.filter_map, List.filter_map, List.filter_filter]
  refine congrArg _ (congrArg _ (List.filter_congr fun p hp ↦ ?_))
  by_cases hmark : p.2 = true
  · simp [hmark, h p hp hmark]
  · simp [hmark]

theorem Turtle.length_eq_length_add_countP {marked : List (Char × Bool)}
    (h : ∀ p ∈ marked, p.2 = true → t.lexicon p.1 = .ignore) {u v u' v' : List Op}
    (hu : t.operations (marked.map Prod.fst) = u ++ .pop :: v)
    (hu' : t.operations (unmarked marked) = u' ++ .pop :: v')
    (heffective : effective u' = effective u) :
    u.length = u'.length + (marked.take u.length).countP Prod.snd := by
  rw [operations, List.map_map] at hu
  obtain ⟨before, tail, rfl, rfl, htail⟩ := List.map_eq_append_iff.mp hu
  obtain ⟨⟨c, mark⟩, behind, rfl, hc, -⟩ := List.map_eq_cons_iff.mp htail
  obtain ⟨hbefore, hlast, -⟩ := List.forall_mem_append.mp h |>.imp_right List.forall_mem_cons.mp
  -- the end of a branch is no idle symbol, so it is not deleted
  have hmark : mark = false := by
    by_contra hmark
    rw [Function.comp_apply, hlast (Bool.eq_true_of_not_eq_false hmark)] at hc
    exact absurd hc (by decide)
  subst hmark
  have hsplit : t.operations (unmarked before) ++ .pop :: t.operations (unmarked behind) =
      u' ++ .pop :: v' := by
    rw [← hu', unmarked_append_cons_false, operations, operations, operations, List.map_append,
      List.map_cons, show t.lexicon c = .pop from hc]
  have hinitial := Op.eq_of_append_pop hsplit <| by
    rw [effective_unmarked hbefore, operations, List.map_map, heffective]
  rw [List.length_map, List.take_left, ← hinitial, operations, List.length_map,
    length_unmarked_add]

/-- **Only the effective operations matter.** Two turtles with one compass and one step walk along
words of their own lexicons. If the words stand for the same operations once the idle ones are
erased, then every sink ends up with the same segments, the same is recorded, and the walks end with
equal reports, or with the same failure of the sink, or with an underflow each, at ends of branches
with the same effective operations before them. In particular nothing but the index of an underflow
changes when idle symbols are deleted, and it is less by the number of those before it. -/
theorem Turtle.walk_of_effective_eq {σ : Type} (t : Turtle) (hn : 0 < t.compass.directions)
    (sink : Sink σ) (received : σ) (word : List Char) :
    (∀ (t' : Turtle) (word' : List Char), t'.compass = t.compass → t'.step = t.step →
      effective (t'.operations word') = effective (t.operations word) →
        Walk.Alike (t.operations word) (t'.operations word') (t.walk sink received word)
          (t'.walk sink received word')) ∧
    ∀ marked : List (Char × Bool), marked.map Prod.fst = word →
      (∀ p ∈ marked, p.2 = true → t.lexicon p.1 = .ignore) →
        let whole := t.walk sink received word
        let rest := t.walk sink received (unmarked marked)
        rest.received = whole.received ∧ rest.log = whole.log ∧
          ((∀ i, whole.result ≠ .error (.underflow i)) → rest.result = whole.result) ∧
          ∀ i, whole.result = .error (.underflow i) →
            ∃ j, rest.result = .error (.underflow j) ∧
              i = j + (marked.take i).countP Prod.snd := by
  refine ⟨fun t' word' hcompass hstep h ↦ alike_of_effective_eq hn hcompass hstep h sink received,
    ?_⟩
  rintro marked rfl h whole rest
  have halike := alike_of_effective_eq hn rfl rfl (t.effective_unmarked h) sink received
  refine ⟨halike.received, halike.log, ?_⟩
  rcases halike.result with ⟨report, hwhole, hrest⟩ | ⟨failure, hwhole, hrest⟩ |
    ⟨u, v, u', v', hu, hu', heffective, hwhole, hrest⟩
  · exact ⟨fun _ ↦ hrest.trans hwhole.symm, fun i hi ↦ absurd (hwhole.symm.trans hi) nofun⟩
  · exact ⟨fun _ ↦ hrest.trans hwhole.symm, fun i hi ↦ absurd (hwhole.symm.trans hi) nofun⟩
  · refine ⟨fun hno ↦ absurd hwhole (hno _), fun i hi ↦ ⟨u'.length, hrest, ?_⟩⟩
    obtain rfl : u.length = i := Error.underflow.inj (Except.error.inj (hwhole.symm.trans hi))
    exact t.length_eq_length_add_countP h hu hu' heffective

/-- Other symbols for the operations, and idle ones at other places: both walks underflow, the one
two symbols later, with equal drawings. Without its idle symbol the first word underflows one symbol
earlier. -/
theorem Turtle.walk_of_effective_eq_remapped :
    let t : Turtle := ⟨⟨4⟩, Turtle.defaultStep, .conventional⟩
    let t' : Turtle := ⟨⟨4⟩, Turtle.defaultStep, .ofList [('D', .draw), ('(', .push), (')', .pop)]⟩
    let word := "F[éF]]F".toList
    let word' := "éD(D)F[)D".toList
    0 < t.compass.directions ∧ t'.compass = t.compass ∧ t'.step = t.step ∧
      effective (t'.operations word') = effective (t.operations word) ∧
      (t.walk .collect #[] word).result = .error (.underflow 5) ∧
      (t'.walk .collect #[] word').result = .error (.underflow 7) ∧
      (t'.walk .collect #[] word').received = (t.walk .collect #[] word).received ∧
      (t.walk .collect #[] "F[F]]F".toList).result = .error (.underflow 4) := by
  intro t t' word word'
  have hn : 0 < t.compass.directions := by decide
  have hops : effective (t'.operations word') = effective (t.operations word) := by
    decide +kernel
  have hresult : (t.walk .collect #[] word).result = .error (.underflow 5) := by decide +kernel
  have hresult' : (t'.walk .collect #[] word').result = .error (.underflow 7) := by decide +kernel
  obtain ⟨halike, hdeleted⟩ := t.walk_of_effective_eq hn .collect #[] word
  let marked := [('F', false), ('[', false), ('é', true), ('F', false), (']', false), (']', false),
    ('F', false)]
  obtain ⟨j, hj, hindex⟩ := (hdeleted marked rfl (by decide)).2.2.2 5 hresult
  have hfour : 5 = j + 1 := hindex
  obtain rfl : 4 = j := Nat.succ.inj hfour
  have hkept : unmarked marked = "F[F]]F".toList := by decide
  refine ⟨hn, rfl, rfl, hops, hresult, hresult', (halike t' word' rfl rfl hops).received, ?_⟩
  rw [← hkept]
  exact hj

end Lindenmayer
