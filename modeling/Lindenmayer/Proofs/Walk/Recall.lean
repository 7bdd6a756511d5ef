import Lindenmayer.Proofs.Walk.Extent

/-!
# What a box recalls

With an infinite step a coordinate can become a datum that is not a number: a direction along one
axis has the component zero along the other. The end of a branch brings the turtle back to a place
whose coordinates are numbers, and the box is lost on the way. Each side of it is the newer one of
two data that do not compare, so the datum replaces the side, and the next number replaces the
datum. All that was bounded before is forgotten.

So the box is that of the numbers behind the last datum that is not one, in each component. It holds
an earlier number exactly if one of those reaches as far. The documented box, that of all places,
comes out where a component is a number at all of them, which a finite step ensures.

## Order and multiplicity

The places of a turtle are a set where all of them count alike. Here it matters which came last, so
they are listed in the order in which the turtle came to them.
-/

namespace Lindenmayer

/-! ## Bounds that forget -/

namespace Single

open Point (lesser greater)

variable {l : List Float32} {x y lower upper : Float32}

theorem not_lt_of_isNaN (h : x.isNaN = true ∨ y.isNaN = true) : ¬x < y := by
  intro hlt
  have hlt : (x.toModel.unpack.compare y.toModel.unpack == some .lt) = true := of_decide_eq_true hlt
  rw [compare_eq_none h] at hlt
  exact absurd hlt (by decide)

/-- The numbers behind the last datum that is none. -/
def recent (l : List Float32) : List Float32 := l.rtakeWhile fun x ↦ !x.isNaN

theorem recent_append_of_isNaN (l : List Float32) (h : x.isNaN = true) : recent (l ++ [x]) = [] :=
  List.rtakeWhile_concat_neg _ _ _ (by rw [h]; decide)

theorem recent_append_of_not_isNaN (l : List Float32) (h : x.isNaN = false) :
    recent (l ++ [x]) = recent l ++ [x] :=
  List.rtakeWhile_concat_pos _ _ _ (by rw [h]; rfl)

/-- Bounds that have forgotten all but the recent numbers: they span those, and are no numbers
themselves if there are none. -/
structure Recalls (l : List Float32) (lower upper : Float32) : Prop where
  isNaN : recent l = [] → lower.isNaN = true ∧ upper.isNaN = true
  spans : recent l ≠ [] → Spans {x | x ∈ recent l} lower upper

/-- The lesser and the greater with one more datum, whatever it is. -/
theorem Recalls.append (h : Recalls l lower upper) (x : Float32) :
    Recalls (l ++ [x]) (lesser lower x) (greater upper x) := by
  rcases hx : x.isNaN with - | -
  · have hrecent := recent_append_of_not_isNaN l hx
    refine ⟨fun hnil ↦ absurd (hrecent ▸ hnil) (List.concat_ne_nil x _), fun _ ↦ ?_⟩
    rw [hrecent]
    by_cases hl : recent l = []
    · -- both bounds are lost, and the number takes their place
      obtain ⟨hlower, hupper⟩ := h.isNaN hl
      rw [lesser, greater, if_neg (not_lt_of_isNaN (.inl hlower)),
        if_neg (not_lt_of_isNaN (.inr hupper)), hl]
      simpa using spans_singleton hx
    · have hset : {v | v ∈ recent l ++ [x]} = insert x {v | v ∈ recent l} := by
        ext v
        simp [or_comm]
      rw [hset]
      exact (h.spans hl).insert hx
  · have hrecent := recent_append_of_isNaN l hx
    refine ⟨fun _ ↦ ?_, fun hne ↦ absurd hrecent hne⟩
    rw [lesser, greater, if_neg (not_lt_of_isNaN (.inr hx)), if_neg (not_lt_of_isNaN (.inl hx))]
    exact ⟨hx, hx⟩

theorem recalls_singleton (hx : x.isNaN = false) : Recalls [x] x x := by
  have hrecent : recent [x] = [x] := recent_append_of_not_isNaN [] hx
  refine ⟨fun hnil ↦ absurd (hrecent ▸ hnil) (List.cons_ne_nil x []), fun _ ↦ ?_⟩
  rw [hrecent]
  simpa using spans_singleton hx

theorem Spans.lower_le_iff {A : Set Float32} (h : Spans A lower upper) :
    lower ≤ x ↔ ∃ v ∈ A, v ≤ x := by
  constructor
  · exact fun hx ↦ ⟨lower, h.lower, hx⟩
  · rintro ⟨v, hv, hx⟩
    exact le_trans (h.bounds v hv).1 hx

theorem Spans.le_upper_iff {A : Set Float32} (h : Spans A lower upper) :
    x ≤ upper ↔ ∃ v ∈ A, x ≤ v := by
  constructor
  · exact fun hx ↦ ⟨upper, h.upper, hx⟩
  · rintro ⟨v, hv, hx⟩
    exact le_trans hx (h.bounds v hv).2

theorem Recalls.spans_of_forall (h : Recalls l lower upper) (hl : l ≠ [])
    (hnum : ∀ x ∈ l, x.isNaN = false) : Spans {x | x ∈ l} lower upper := by
  have hrecent : recent l = l :=
    List.rtakeWhile_eq_self_iff.mpr fun x hx ↦ by rw [hnum x hx]; rfl
  rw [← hrecent] at hl
  exact hrecent ▸ h.spans hl

theorem Recalls.isNaN_eq_false_iff (h : Recalls l lower upper) :
    (lower.isNaN = false ↔ recent l ≠ []) ∧ (upper.isNaN = false ↔ recent l ≠ []) := by
  by_cases hl : recent l = []
  · obtain ⟨hlower, hupper⟩ := h.isNaN hl
    rw [hl, hlower, hupper]
    simp
  · have hspans := h.spans hl
    rw [hspans.isNaN _ hspans.lower, hspans.isNaN _ hspans.upper]
    simp [hl]

end Single

open Point (lesser greater)
open Single (Recalls Spans)

variable {t : Turtle} {word : List Char} {c : Char} {s : State} {drawn : List Segment}

/-! ## Places in their order -/

/-- The place that the last symbol of a word took the turtle to, if it is a step and was taken. -/
def Turtle.arrival? (t : Turtle) (word : List Char) : Option Point :=
  match (t.walk .discard () word).result with
  | .error _ => none
  | .ok report =>
    if (t.operations word).getLast? = some .draw ∨ (t.operations word).getLast? = some .move then
      some report.final.position
    else none

/-- The places that a turtle comes to along a word, in their order, from the origin on. -/
def Turtle.trail (t : Turtle) (word : List Char) : List Point :=
  Point.origin :: word.inits.filterMap t.arrival?

theorem Turtle.trail_append_singleton (word : List Char) (c : Char) :
    t.trail (word ++ [c]) = t.trail word ++ (t.arrival? (word ++ [c])).toList := by
  have hinits : (word ++ [c]).inits = word.inits ++ [word ++ [c]] := by
    rw [List.inits_append]
    rfl
  rw [trail, hinits, List.filterMap_append, trail, List.cons_append]
  rcases h : t.arrival? (word ++ [c]) with - | p <;> simp [h]

theorem Turtle.arrival?_nil (t : Turtle) : t.arrival? [] = none := rfl

theorem Turtle.arrival?_eq_some_iff {p : Point} :
    t.arrival? word = some p ↔ ∃ u c report, word = u ++ [c] ∧
      (t.lexicon c = .draw ∨ t.lexicon c = .move) ∧
        (t.walk .discard () word).result = .ok report ∧ report.final.position = p := by
  induction word using List.reverseRecOn with
  | nil =>
    rw [arrival?_nil]
    simp
  | append_singleton word c _ =>
    have hlast : (t.operations (word ++ [c])).getLast? = some (t.lexicon c) := by
      rw [operations_append_singleton]
      exact List.getLast?_concat
    rw [arrival?, hlast]
    rcases hresult : (t.walk .discard () (word ++ [c])).result with e | report
    · simp
    · rw [Option.ite_none_right_eq_some, Option.some_inj, Option.some_inj, Option.some_inj]
      constructor
      · rintro ⟨hop, rfl⟩
        exact ⟨word, c, report, rfl, hop, rfl, rfl⟩
      · rintro ⟨u, c', report', hword, hop, hreport, rfl⟩
        obtain ⟨-, hc⟩ := List.append_inj' hword rfl
        rw [List.cons.inj hc |>.1, ← Except.ok.inj hreport]
        exact ⟨hop, rfl⟩

theorem Turtle.Reaches.arrival?_append_singleton (h : t.Reaches (t.operations word) s drawn)
    {a : Advance} (hstep : s.Step t (t.lexicon c) a) :
    t.arrival? (word ++ [c]) =
      if t.lexicon c = .draw ∨ t.lexicon c = .move then some a.state.pose.position else none := by
  have hlast := Reaches.walk_discard (operations_append_singleton t word c ▸ h.step hstep)
  rw [arrival?, hlast, operations_append_singleton, List.getLast?_concat]
  simp only [Option.some_inj]
  rfl

/-- The places listed are those that the turtle occupies. -/
theorem Turtle.mem_trail_iff {p : Point} : p ∈ t.trail word ↔ p ∈ t.places word := by
  rw [trail, List.mem_cons, List.mem_filterMap]
  constructor
  · rintro (rfl | ⟨u, hu, harrival⟩)
    · exact Occupies.origin
    · obtain ⟨u, c, report, rfl, hop, hresult, rfl⟩ := arrival?_eq_some_iff.mp harrival
      exact Occupies.step ((List.mem_inits _ _).mp hu) hop hresult
  · rintro (_ | ⟨hu, hop, hresult⟩)
    · exact .inl rfl
    · exact .inr ⟨_, (List.mem_inits _ _).mpr hu,
        arrival?_eq_some_iff.mpr ⟨_, _, _, rfl, hop, hresult, rfl⟩⟩

/-! ## The box -/

section Coordinates

variable {f : Point → Float32}

theorem Point.coordinate_lower (hf : f = Point.x ∨ f = Point.y) (p q : Point) :
    f (p.lower q) = lesser (f p) (f q) := by
  rcases hf with rfl | rfl <;> rfl

theorem Point.coordinate_upper (hf : f = Point.x ∨ f = Point.y) (p q : Point) :
    f (p.upper q) = greater (f p) (f q) := by
  rcases hf with rfl | rfl <;> rfl

theorem Turtle.Reaches.recalls (h : t.Reaches (t.operations word) s drawn)
    (hf : f = Point.x ∨ f = Point.y) :
    Recalls ((t.trail word).map f) (f s.lower) (f s.upper) := by
  refine h.word_induction ?_ fun {word c s drawn a} hreach hstep hbox ↦ ?_
  · have hzero : (f Point.origin).isNaN = false := by rcases hf with rfl | rfl <;> decide
    exact Single.recalls_singleton hzero
  · rw [trail_append_singleton, List.map_append, hreach.arrival?_append_singleton hstep]
    generalize t.lexicon c = op at hstep
    cases hstep with
    | draw _ | move _ =>
      rw [if_pos (by simp)]
      simp only [State.goTo, Point.coordinate_lower hf, Point.coordinate_upper hf]
      exact hbox.append _
    | turn _ | push | pop _ | ignore =>
      rw [if_neg (by simp)]
      simpa using hbox

/-- **What a box recalls.** Whatever the step is: in each component the box of a walk is that of the
numbers behind the last place where the component is not a number, and its sides are no numbers
exactly if there are none. So a side that is a number bounds this component of all places, where it
is a number, exactly if the recent numbers reach as far as it does anywhere. Where the component is
a number at all places, the box is that of all of them. -/
theorem Turtle.walk_extent_recalls {σ : Type} (t : Turtle) (sink : Sink σ) (received : σ)
    (word : List Char) {report : Report} (h : (t.walk sink received word).result = .ok report)
    (hf : f = Point.x ∨ f = Point.y) :
    let recent := Single.recent ((t.trail word).map f)
    (∀ p, p ∈ t.trail word ↔ p ∈ t.places word) ∧
      Recalls ((t.trail word).map f) (f report.lower) (f report.upper) ∧
      (((f report.lower).isNaN = false →
          ∀ p ∈ t.places word, (f p).isNaN = false → f report.lower ≤ f p) ↔
        (recent ≠ [] → ∀ p ∈ t.places word, (f p).isNaN = false → ∃ v ∈ recent, v ≤ f p)) ∧
      (((f report.upper).isNaN = false →
          ∀ p ∈ t.places word, (f p).isNaN = false → f p ≤ f report.upper) ↔
        (recent ≠ [] → ∀ p ∈ t.places word, (f p).isNaN = false → ∃ v ∈ recent, f p ≤ v)) ∧
      ((∀ p ∈ t.places word, (f p).isNaN = false) →
        Spans (f '' t.places word) (f report.lower) (f report.upper)) := by
  intro recent
  obtain ⟨s, drawn, hreach, rfl⟩ := exists_reaches_of_walk h
  have hbox : Recalls ((t.trail word).map f) (f s.lower) (f s.upper) := hreach.recalls hf
  obtain ⟨hlower, hupper⟩ := hbox.isNaN_eq_false_iff
  refine ⟨fun p ↦ mem_trail_iff, hbox, ?_, ?_, fun hnum ↦ ?_⟩
  · exact imp_congr_ctx hlower fun hne ↦
      forall₃_congr fun p _ _ ↦ (hbox.spans hne).lower_le_iff
  · exact imp_congr_ctx hupper fun hne ↦
      forall₃_congr fun p _ _ ↦ (hbox.spans hne).le_upper_iff
  · have himage : f '' t.places word = {x | x ∈ (t.trail word).map f} := by
      ext x
      simp [mem_trail_iff]
    rw [himage]
    refine hbox.spans_of_forall (by simp [trail]) fun x hx ↦ ?_
    obtain ⟨p, hp, rfl⟩ := List.mem_map.mp hx
    exact hnum p (mem_trail_iff.mp hp)

end Coordinates

/-- An infinite step along the first axis, taken back by the end of a branch, and one along the
second axis: the first one loses the second component, and the box does not hold the origin. -/
theorem Turtle.walk_extent_forgets_origin :
    let t : Turtle := ⟨⟨4⟩, Float32.ofBits 0x7f800000, .conventional⟩
    let word := "[F]-F".toList
    ∃ report, (t.walk .collect #[] word).result = .ok report ∧
      report.lower.y.isNaN = false ∧ Point.origin ∈ t.places word ∧
      Point.origin.y.isNaN = false ∧ ¬report.lower.y ≤ Point.origin.y := by
  intro t word
  let report : Report :=
    { segments := 2
      moves := 0
      maxDepth := 1
      final := ⟨1, ⟨Float32.ofBits 0xff800000, Float32.ofBits 0x7f800000⟩⟩
      lower := ⟨Float32.ofBits 0xff800000, Float32.ofBits 0x7f800000⟩
      upper := ⟨Float32.ofBits 0x7f800000, Float32.ofBits 0x7f800000⟩ }
  have hresult : (t.walk .collect #[] word).result = .ok report := by decide +kernel
  exact ⟨report, hresult, by decide +kernel, Occupies.origin, by decide, by decide +kernel⟩

/-- On the same walk the greater side of the second component is right, since the one recent number
is the greatest there is, and so is the lesser side of the first one, where nothing was lost. -/
theorem Turtle.walk_extent_recalls_infinite :
    let t : Turtle := ⟨⟨4⟩, Float32.ofBits 0x7f800000, .conventional⟩
    let word := "[F]-F".toList
    ∃ report, (t.walk .collect #[] word).result = .ok report ∧
      Single.recent ((t.trail word).map Point.y) = [Float32.ofBits 0x7f800000] ∧
      Recalls ((t.trail word).map Point.y) report.lower.y report.upper.y ∧
      (report.upper.y.isNaN = false →
        ∀ p ∈ t.places word, p.y.isNaN = false → p.y ≤ report.upper.y) ∧
      (report.lower.x.isNaN = false →
        ∀ p ∈ t.places word, p.x.isNaN = false → report.lower.x ≤ p.x) := by
  intro t word
  have hok : (t.walk .collect #[] word).result.isOk = true := by decide +kernel
  rcases hresult : (t.walk .collect #[] word).result with e | report
  · rw [hresult] at hok
    cases hok
  have hrecentx : Single.recent ((t.trail word).map Point.x) =
      [0, Float32.ofBits 0x7f800000, Float32.ofBits 0xff800000] := by decide +kernel
  have hrecenty : Single.recent ((t.trail word).map Point.y) = [Float32.ofBits 0x7f800000] := by
    decide +kernel
  obtain ⟨hplaces, -, hx, -⟩ := t.walk_extent_recalls .collect #[] word hresult (.inl rfl)
  obtain ⟨-, hy, -, hupper, -⟩ := t.walk_extent_recalls .collect #[] word hresult (.inr rfl)
  refine ⟨report, rfl, hrecenty, hy, hupper.mpr fun _ p hp hnum ↦ ?_,
    hx.mpr fun _ p hp hnum ↦ ?_⟩
  · refine ⟨Float32.ofBits 0x7f800000, hrecenty ▸ List.mem_singleton_self _, ?_⟩
    have hall : ∀ p ∈ t.trail word, p.y.isNaN = false → p.y ≤ Float32.ofBits 0x7f800000 := by
      decide +kernel
    exact hall p ((hplaces p).mpr hp) hnum
  · refine ⟨Float32.ofBits 0xff800000, hrecentx ▸ by simp, ?_⟩
    have hall : ∀ p ∈ t.trail word, p.x.isNaN = false → Float32.ofBits 0xff800000 ≤ p.x := by
      decide +kernel
    exact hall p ((hplaces p).mpr hp) hnum

end Lindenmayer
