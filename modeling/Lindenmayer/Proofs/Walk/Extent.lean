import Lindenmayer.Proofs.Single.Finite
import Lindenmayer.Proofs.Walk.Reached

/-!
# The box around a walk

A turtle occupies the origin and the place after each step it takes. The box of a report is spanned
by these places in each component: it holds them all, and each of its sides goes through one of
them. This needs a finite step and nothing else; the sums may overflow, in one branch or in all.

A fold of comparisons forgets what it should bound as soon as a datum that is not a number comes in,
so the point is that none does. A component of a stride is the product of a number from -1 to 1 and
the finite step, which is finite; and the sum of a number and a finite one is a number, though
perhaps an infinite one. A sum of two infinite numbers is never formed, since a stride is added to a
place and no two places are added.
-/

namespace Lindenmayer

open Single (Spans)

/-! ## Strides -/

theorem Numeral.clamp_bounds (x : Float32) : -1 ≤ Numeral.clamp x ∧ Numeral.clamp x ≤ 1 := by
  have hneg : (-1 : Float32) ≤ -1 ∧ (-1 : Float32) ≤ 1 := by decide +kernel
  have hone : (-1 : Float32) ≤ 1 ∧ (1 : Float32) ≤ 1 := by decide +kernel
  rw [Numeral.clamp]
  split_ifs with hupper hlower
  · exact ⟨hlower, hupper⟩
  · exact hneg
  · exact hone

variable {t : Turtle}

theorem Turtle.isNaN_ahead (hfinite : t.step.isFinite = true) {p : Pose} {q : Point}
    (hx : p.position.x.isNaN = false) (hy : p.position.y.isNaN = false)
    (h : t.ahead? p = some q) : q.x.isNaN = false ∧ q.y.isNaN = false := by
  obtain ⟨u, hu, rfl⟩ := Option.map_eq_some_iff.mp h
  rw [Compass.unit?, Option.ite_none_right_eq_some] at hu
  obtain ⟨-, hu⟩ := hu
  cases hu
  have hstride : ∀ v, (Numeral.clamp v * t.step).isFinite = true := fun v ↦
    Single.isFinite_mul (Numeral.clamp_bounds v).1 (Numeral.clamp_bounds v).2 hfinite
  exact ⟨Single.isNaN_add hx (hstride _), Single.isNaN_add hy (hstride _)⟩

/-! ## Places -/

/-- A turtle occupies the origin, and the place after each step it takes. -/
inductive Turtle.Occupies (t : Turtle) (word : List Char) : Point → Prop
  | origin : Occupies t word Point.origin
  | step {u : List Char} {c : Char} {report : Report} : u ++ [c] <+: word →
      t.lexicon c = .draw ∨ t.lexicon c = .move →
        (t.walk .discard () (u ++ [c])).result = .ok report → Occupies t word report.final.position

/-- The places a turtle occupies along a word. -/
def Turtle.places (t : Turtle) (word : List Char) : Set Point := {p | t.Occupies word p}

theorem Turtle.places_subset {u word : List Char} (h : u <+: word) :
    t.places u ⊆ t.places word := by
  rintro _ (_ | ⟨hu, hop, hresult⟩)
  · exact Occupies.origin
  · exact Occupies.step (hu.trans h) hop hresult

theorem Turtle.places_nil : t.places [] = {Point.origin} := by
  refine Set.Subset.antisymm ?_ (Set.singleton_subset_iff.mpr Occupies.origin)
  rintro _ (_ | ⟨hu, -, -⟩)
  · rfl
  · exact absurd (List.prefix_nil.mp hu) (List.concat_ne_nil _ _)

theorem Turtle.places_append_of_step {word : List Char} {c : Char} {report : Report}
    (hop : t.lexicon c = .draw ∨ t.lexicon c = .move)
    (hresult : (t.walk .discard () (word ++ [c])).result = .ok report) :
    t.places (word ++ [c]) = insert report.final.position (t.places word) := by
  refine Set.Subset.antisymm ?_ (Set.insert_subset (Occupies.step List.prefix_rfl hop hresult)
    (places_subset (List.prefix_append word [c])))
  rintro _ (_ | ⟨hu, hop', hresult'⟩)
  · exact .inr Occupies.origin
  · rcases List.prefix_concat_iff.mp hu with heq | hu
    · rw [heq, hresult] at hresult'
      cases hresult'
      exact .inl rfl
    · exact .inr (Occupies.step hu hop' hresult')

theorem Turtle.places_append_of_ne {word : List Char} {c : Char} (hdraw : t.lexicon c ≠ .draw)
    (hmove : t.lexicon c ≠ .move) : t.places (word ++ [c]) = t.places word := by
  refine Set.Subset.antisymm ?_ (places_subset (List.prefix_append word [c]))
  rintro _ (_ | ⟨hu, hop, hresult⟩)
  · exact Occupies.origin
  · rcases List.prefix_concat_iff.mp hu with heq | hu
    · obtain ⟨-, hc⟩ := List.append_inj' heq rfl
      cases hc
      exact absurd hop (not_or.mpr ⟨hdraw, hmove⟩)
    · exact Occupies.step hu hop hresult

/-! ## The invariant -/

variable {word : List Char} {c : Char} {q : Point} {s : State} {drawn : List Segment}

/-- The box of a state is spanned by the places so far, and all that the turtle carries and has
drawn is at such places. -/
structure Turtle.Boxed (t : Turtle) (word : List Char) (s : State) (drawn : List Segment) :
    Prop where
  x : Spans (Point.x '' t.places word) s.lower.x s.upper.x
  y : Spans (Point.y '' t.places word) s.lower.y s.upper.y
  pose : s.pose.position ∈ t.places word
  branches : ∀ p ∈ s.branches, p.position ∈ t.places word
  drawn : ∀ segment ∈ drawn, segment.start ∈ t.places word ∧ segment.stop ∈ t.places word

theorem Turtle.Boxed.goTo (h : t.Boxed word s drawn) (hfinite : t.step.isFinite = true)
    (hahead : t.ahead? s.pose = some q)
    (hplaces : t.places (word ++ [c]) = insert q (t.places word)) :
    t.Boxed (word ++ [c]) (s.goTo q) drawn := by
  obtain ⟨hx, hy⟩ := isNaN_ahead hfinite (h.x.isNaN _ (Set.mem_image_of_mem _ h.pose))
    (h.y.isNaN _ (Set.mem_image_of_mem _ h.pose)) hahead
  have hsubset := places_subset (t := t) (List.prefix_append word [c])
  refine ⟨?_, ?_, ?_, ?_, ?_⟩
  · rw [hplaces, Set.image_insert_eq]
    exact h.x.insert hx
  · rw [hplaces, Set.image_insert_eq]
    exact h.y.insert hy
  · rw [hplaces]
    exact Set.mem_insert q _
  · exact fun p hp ↦ hsubset (h.branches p hp)
  · exact fun segment hsegment ↦
      ⟨hsubset (h.drawn segment hsegment).1, hsubset (h.drawn segment hsegment).2⟩

theorem Turtle.Boxed.step (h : t.Boxed word s drawn) (hfinite : t.step.isFinite = true)
    (hreach : t.Reaches (t.operations word) s drawn) {a : Advance}
    (hstep : s.Step t (t.lexicon c) a) :
    t.Boxed (word ++ [c]) a.state (drawn ++ a.drawn.toList) := by
  have hlast : (t.walk .discard () (word ++ [c])).result = .ok a.state.report := by
    exact Reaches.walk_discard (operations_append_singleton t word c ▸ hreach.step hstep)
  generalize hop : t.lexicon c = op at hstep
  have hstay : op ≠ .draw → op ≠ .move → t.places (word ++ [c]) = t.places word :=
    fun hdraw hmove ↦ places_append_of_ne (hop ▸ hdraw) (hop ▸ hmove)
  cases hstep with
  | draw hahead =>
    have hbox := h.goTo hfinite hahead (places_append_of_step (.inl hop) hlast)
    refine ⟨hbox.x, hbox.y, hbox.pose, hbox.branches, fun segment hsegment ↦ ?_⟩
    rcases List.mem_append.mp hsegment with hsegment | hsegment
    · exact hbox.drawn segment hsegment
    · -- the new segment goes from the old place to the new one
      obtain rfl := List.mem_singleton.mp hsegment
      exact ⟨places_subset (List.prefix_append word [c]) h.pose, hbox.pose⟩
  | move hahead =>
    have hbox := h.goTo hfinite hahead (places_append_of_step (.inr hop) hlast)
    rw [Option.toList_none, List.append_nil]
    exact ⟨hbox.x, hbox.y, hbox.pose, hbox.branches, hbox.drawn⟩
  | turn u | ignore =>
    have hplaces := hstay nofun nofun
    rw [Option.toList_none, List.append_nil]
    exact ⟨hplaces ▸ h.x, hplaces ▸ h.y, hplaces ▸ h.pose, hplaces ▸ h.branches, hplaces ▸ h.drawn⟩
  | push =>
    have hplaces := hstay nofun nofun
    rw [Option.toList_none, List.append_nil]
    exact ⟨hplaces ▸ h.x, hplaces ▸ h.y, hplaces ▸ h.pose,
      hplaces ▸ List.forall_mem_cons.mpr ⟨h.pose, h.branches⟩, hplaces ▸ h.drawn⟩
  | pop hbranches =>
    have hplaces := hstay nofun nofun
    obtain ⟨hpose, hrest⟩ := List.forall_mem_cons.mp (hbranches ▸ h.branches)
    rw [Option.toList_none, List.append_nil]
    exact ⟨hplaces ▸ h.x, hplaces ▸ h.y, hplaces ▸ hpose, hplaces ▸ hrest, hplaces ▸ h.drawn⟩

theorem Turtle.Reaches.boxed (hfinite : t.step.isFinite = true)
    (h : t.Reaches (t.operations word) s drawn) : t.Boxed word s drawn := by
  refine h.word_induction ?_ fun hreach hstep ih ↦ ih.step hfinite hreach hstep
  have hzero : Spans {(0 : Float32)} 0 0 := Single.spans_singleton (by decide)
  refine ⟨?_, ?_, Occupies.origin, nofun, nofun⟩
  · rw [places_nil, Set.image_singleton]
    exact hzero
  · rw [places_nil, Set.image_singleton]
    exact hzero

/-- **The box of a walk.** With a finite step, all places the turtle occupies have numbers as their
coordinates, and the corners of the reported box are their least and greatest coordinates, bit for
bit. The turtle is always at one of these places, also where a branch has just ended, and every
segment is drawn from one of them to another. -/
theorem Turtle.walk_extent {σ : Type} (t : Turtle) (hfinite : t.step.isFinite = true)
    (sink : Sink σ) (received : σ) (word : List Char) {report : Report}
    (h : (t.walk sink received word).result = .ok report) :
    (Spans (Point.x '' t.places word) report.lower.x report.upper.x ∧
      Spans (Point.y '' t.places word) report.lower.y report.upper.y) ∧
    (∀ u, u <+: word → ∃ before, (t.walk .discard () u).result = .ok before ∧
      before.final.position ∈ t.places word) ∧
    ∀ segment ∈ (t.walk .collect #[] word).received,
      segment.start ∈ t.places word ∧ segment.stop ∈ t.places word := by
  obtain ⟨s, drawn, hreach, rfl⟩ := exists_reaches_of_walk h
  have hbox := hreach.boxed hfinite
  refine ⟨⟨hbox.x, hbox.y⟩, ?_, ?_⟩
  · rintro u ⟨rest, rfl⟩
    rw [operations, List.map_append] at hreach
    obtain ⟨s', drawn', hreach'⟩ := hreach.of_append
    exact ⟨s'.report, hreach'.walk_discard,
      places_subset (List.prefix_append u rest) (Reaches.boxed hfinite hreach').pose⟩
  · intro segment hsegment
    rw [walk_of_reliable t Sink.reliable_collect, courseOf, hreach.course_eq] at hsegment
    have hreceived : (Sink.collect.emitAll #[] drawn).1.toList = drawn :=
      Sink.fst_emitAll_collect #[] drawn
    exact hbox.drawn segment (hreceived ▸ Array.mem_toList_iff.mpr hsegment)

/-- Steps of the greatest finite length: the sums overflow both ways, inside a branch and behind it,
and the box is infinite on two sides. -/
theorem Turtle.walk_extent_overflow :
    let t : Turtle := ⟨⟨4⟩, Float32.ofBits 0x7f7fffff, .conventional⟩
    let word := "F[F+F]|fFF".toList
    let report : Report :=
      { segments := 5
        moves := 1
        maxDepth := 1
        final := ⟨2, ⟨Float32.ofBits 0xff800000, Float32.ofBits 0xf48ccde2⟩⟩
        lower := ⟨Float32.ofBits 0xff800000, Float32.ofBits 0xff7fffff⟩
        upper := ⟨Float32.ofBits 0x7f800000, 0⟩ }
    t.step.isFinite = true ∧ (t.walk .collect #[] word).result = .ok report ∧
      Spans (Point.x '' t.places word) report.lower.x report.upper.x ∧
      Spans (Point.y '' t.places word) report.lower.y report.upper.y := by
  intro t word report
  have hfinite : t.step.isFinite = true := by decide +kernel
  have hresult : (t.walk .collect #[] word).result = .ok report := by decide +kernel
  exact ⟨hfinite, hresult, (t.walk_extent hfinite .collect #[] word hresult).1⟩

end Lindenmayer
