import Lindenmayer.Program
import Lindenmayer.Proofs.Derivation.Descent
import Lindenmayer.Proofs.Output.Truncation
import Lindenmayer.Proofs.Source.RoundTrip
import Lindenmayer.Proofs.Walk.Reached
import Lindenmayer.Proofs.Walk.Refusal

/-!
# What a command delivers

A command delivers the drawing of a walk that knows nothing of layouts, buffers and exit codes. What
can keep it from doing so is told apart by its stages: no turtle and no word come out of the file,
or the walk ends early, or the drawing does not reach the output.

## Flushing comes last and wins

The drawing is flushed also behind a walk that ended early, so what was drawn until then is
delivered. On an output without room, whatever else went wrong, a failure to flush is the one that
is reported as soon as there is something to flush. A line is not empty and the buffer has room for
a part of the first one, so there is something to flush exactly if a segment was drawn; how the walk
ended, and how much of the drawing the buffer could not hold, has no part in it.
-/

namespace Lindenmayer

open Text (utf8)

/-! ## Drawing into a device -/

theorem Layout.utf8_drawing_eq_nil (l : Layout) {segments : List Segment} :
    utf8 (l.drawing segments) = [] ↔ segments = [] := by
  constructor
  · intro h
    by_contra hne
    obtain ⟨s, rest, rfl⟩ := List.exists_cons_of_ne_nil hne
    have hline := l.size_pos s
    rw [drawing_cons, Text.utf8_append, List.append_eq_nil_iff] at h
    simp [size, h.1] at hline
  · intro h
    simp [h, drawing, utf8]

namespace Sink

section

variable {σ : Type} {sink : Sink σ} {received : σ} {segments : List Segment}

theorem feed_of_emitAll (h : ∀ answer ∈ (sink.emitAll received segments).2, answer = none) :
    sink.feed received segments = ((sink.emitAll received segments).1, none) := by
  induction segments generalizing received with
  | nil => rfl
  | cons s segments ih =>
    have hemit : sink.emit received s = ((sink.emit received s).1, none) :=
      Prod.ext rfl (h _ List.mem_cons_self)
    rw [feed, hemit]
    exact ih fun answer hanswer ↦ h answer (List.mem_cons_of_mem _ hanswer)

/-- A sink is fed the segments up to its first failure, at least one if there is any. -/
theorem exists_feed_eq_emitAll (sink : Sink σ) (received : σ) (segments : List Segment) :
    ∃ offered, (sink.feed received segments).1 = (sink.emitAll received offered).1 ∧
      (offered = [] ↔ segments = []) := by
  induction segments generalizing received with
  | nil => exact ⟨[], rfl, Iff.rfl⟩
  | cons s segments ih =>
    rw [feed]
    rcases hemit : sink.emit received s with ⟨received', failure | failure⟩
    · obtain ⟨offered, hoffered, -⟩ := ih received'
      refine ⟨s :: offered, ?_, by simp⟩
      simpa [emitAll, hemit] using hoffered
    · exact ⟨[s], by simp [emitAll, hemit], by simp⟩

end

variable (l : Layout)

theorem feed_writing_unbounded (segments : List Segment) :
    (writing l).feed .unbounded segments =
      ((Device.unbounded.write (utf8 (l.drawing segments))).1, none) := by
  rw [feed_of_emitAll, fst_emitAll_writing]
  intro answer hanswer
  rw [snd_emitAll_writing_of_room_eq_none l rfl] at hanswer
  exact List.eq_of_mem_replicate hanswer

theorem isEmpty_taken_feed_writing_bounded {room : ℕ} (hroom : 0 < room) (failure : DeviceError)
    (segments : List Segment) :
    ((writing l).feed (.bounded room failure) segments).1.taken.isEmpty ↔ segments = [] := by
  obtain ⟨offered, hoffered, hiff⟩ :=
    exists_feed_eq_emitAll (writing l) (.bounded room failure) segments
  rw [hoffered, fst_emitAll_writing, ← hiff, ← l.utf8_drawing_eq_nil]
  simp [Device.write, Device.bounded, hroom.ne']

end Sink

/-! ## Drawing a word -/

namespace Turtle

variable (t : Turtle) (l : Layout) (word : Word)

/-- How a run fails that could deliver its drawing. -/
def walkFailure : Option Failure :=
  match (t.walk .collect #[] word).result with
  | .ok _ => none
  | .error e => some (.walking e)

theorem received_walk_writing (d : Device) :
    (t.walk (Sink.writing l) d word).received =
      ((Sink.writing l).feed d (t.courseOf word).drawn).1 := by
  rcases hfeed : (Sink.writing l).feed d (t.courseOf word).drawn with ⟨d', failure⟩
  rw [walk_eq_conclude, hfeed, Course.received_conclude]

theorem failure_draw_of_flush_eq_none {c : Console} {d : Device}
    (hfeed : (Sink.writing l).feed c.device (t.courseOf word).drawn = (d, none))
    (hflush : c.flush d = none) : (t.draw l c word).failure = t.walkFailure word := by
  rw [draw, walkFailure, result_collect, walk_eq_conclude, hfeed]
  simp only [Course.received_conclude, hflush, Course.result_conclude]
  rcases (t.courseOf word).outcome with e | s
  · rfl
  · rfl

theorem walkFailure_eq_none_iff (hn : 0 < t.compass.directions) :
    t.walkFailure word = none ↔
      ∀ i, (t.walk .collect #[] word).result ≠ .error (.underflow i) := by
  rw [walkFailure, result_collect, courseOf]
  rcases course_cases hn (t.operations word) with
    ⟨s, drawn, -, hcourse⟩ | ⟨u, v, s, drawn, -, -, -, hcourse⟩
  · simp [hcourse, Except.map]
  · simp [hcourse, Except.map]

theorem output_draw_ready :
    (t.draw l .ready word).output.toList =
      utf8 (l.drawing (t.walk .collect #[] word).received.toList) := by
  have houtput : (t.draw l .ready word).output =
      (t.walk (Sink.writing l) .unbounded word).received.taken := by
    rw [draw]
    simp only [Console.flush, Console.delivered, Console.device]
    rcases (t.walk (Sink.writing l) .unbounded word).result with e | r
    · rfl
    · rfl
  rw [houtput, received_walk_writing, Sink.feed_writing_unbounded, toList_received_collect]
  simp [Device.write, Device.unbounded]

theorem failure_draw_ready : (t.draw l .ready word).failure = t.walkFailure word :=
  t.failure_draw_of_flush_eq_none l word (Sink.feed_writing_unbounded l _) rfl

theorem failure_draw_full_of_eq_empty (h : (t.walk .collect #[] word).received = #[]) :
    (t.draw l .full word).failure = t.walkFailure word := by
  have hdrawn : (t.courseOf word).drawn = [] := by
    rw [← toList_received_collect, h]
  refine t.failure_draw_of_flush_eq_none l word (d := Console.full.device) ?_ rfl
  rw [hdrawn]
  rfl

theorem failure_draw_full_of_ne_empty (h : (t.walk .collect #[] word).received ≠ #[]) :
    (t.draw l .full word).failure = some (.flushing .full) := by
  have hdrawn : (t.courseOf word).drawn ≠ [] := by
    rw [← toList_received_collect]
    simpa using h
  have hflush : Console.full.flush (t.walk (Sink.writing l) Console.full.device word).received =
      some .full := by
    rw [received_walk_writing, Console.flush, if_neg]
    rw [Console.device, Sink.isEmpty_taken_feed_writing_bounded l (by decide)]
    exact hdrawn
  rw [draw]
  simp only [hflush]

end Turtle

/-! ## Stages -/

namespace Request

variable {r : Request} {read : String → Except FileError ByteArray} {t : Turtle} {word : Word}

/-- The turtle and the word that a request comes to: the file is readable, its content is UTF-8 and
the text of a grammar, and the grammar has the requested generation. -/
inductive Prepares (r : Request) (read : String → Except FileError ByteArray) :
    Turtle → Word → Prop
  | intro {content : ByteArray} {text : String} {g : Grammar} {word : Word} :
      read r.path = .ok content → String.fromUTF8? content = some text →
        (Grammar.ofText text.toList).value = .ok g → (g.expand r.generation).value = .ok word →
          Prepares r read ⟨⟨g.directions⟩, r.step, .conventional⟩ word

theorem value_load_eq_ok_iff {path : String} {g : Grammar} :
    (Grammar.load read path).value = .ok g ↔
      ∃ content text, read path = .ok content ∧ String.fromUTF8? content = some text ∧
        (Grammar.ofText text.toList).value = .ok g := by
  rw [Grammar.load]
  rcases read path with cause | content
  · simp
  · rcases htext : String.fromUTF8? content with - | text
    · simp [htext]
    · simp [htext]

theorem make_eq_ok {text : List Char} {g : Grammar} (h : (Grammar.ofText text).value = .ok g)
    (step : Float32) :
    Turtle.make g.directions step = .ok ⟨⟨g.directions⟩, step, .conventional⟩ :=
  Turtle.make_eq_ok (Grammar.wellFormed_of_value_ofText h).one_le_directions step

theorem Prepares.directions_pos (h : r.Prepares read t word) : 0 < t.compass.directions := by
  obtain ⟨-, -, hg, -⟩ := h
  exact (Grammar.wellFormed_of_value_ofText hg).one_le_directions

theorem Prepares.run_eq (h : r.Prepares read t word) (c : Console) :
    (r.run read c).output = (t.draw r.layout c word).output ∧
      (r.run read c).failure = (t.draw r.layout c word).failure := by
  obtain ⟨hread, htext, hg, hword⟩ := h
  have hload := value_load_eq_ok_iff.mpr ⟨_, _, hread, htext, hg⟩
  rw [run]
  simp only [hload, drawGrammar, hword, make_eq_ok hg, and_self]

theorem exists_prepares_iff : (∃ t word, r.Prepares read t word) ↔
    ∃ content text g, read r.path = .ok content ∧ String.fromUTF8? content = some text ∧
      (Grammar.ofText text.toList).value = .ok g ∧ 1 ≤ r.generation := by
  constructor
  · rintro ⟨t, word, ⟨hread, htext, hg, hword⟩⟩
    refine ⟨_, _, _, hread, htext, hg, ?_⟩
    by_contra hlt
    rw [Grammar.expand, Rules.expand_of_lt_one _ (Int.not_le.mp hlt)] at hword
    simp at hword
  · rintro ⟨content, text, g, hread, htext, hg, hgeneration⟩
    exact ⟨_, _, hread, htext, hg, Rules.value_expand _ hgeneration⟩

theorem run_of_not_prepares (h : ¬∃ t word, r.Prepares read t word) (c : Console) :
    (r.run read c).output = #[] ∧
      ((∃ e, (r.run read c).failure = some (.reading e)) ∨
        ∃ e, (r.run read c).failure = some (.expanding r.path e)) := by
  rw [run]
  rcases hload : (Grammar.load read r.path).value with e | g
  · exact ⟨rfl, Or.inl ⟨e, rfl⟩⟩
  · rcases hword : (g.expand r.generation).value with e | word
    · simp [drawGrammar, hword, Run.fail]
    · obtain ⟨content, text, hread, htext, hg⟩ := value_load_eq_ok_iff.mp hload
      exact absurd ⟨_, _, hread, htext, hg, hword⟩ h

/-- Whatever is read as a grammar has directions, so there always is a turtle to walk. -/
theorem failure_run_ne_preparing (c : Console) (e : Error) :
    (r.run read c).failure ≠ some (.preparing e) := by
  by_cases h : ∃ t word, r.Prepares read t word
  · obtain ⟨t, word, hprepares⟩ := h
    rw [(hprepares.run_eq c).2, Turtle.draw]
    rcases c.flush (t.walk (Sink.writing r.layout) c.device word).received with - | cause
    · rcases (t.walk (Sink.writing r.layout) c.device word).result with e' | report
      · simp
      · simp
    · simp
  · rcases (run_of_not_prepares h c).2 with ⟨e', hfailure⟩ | ⟨e', hfailure⟩
    · simp [hfailure]
    · simp [hfailure]

end Request

/-! ## Reports -/

theorem Run.code_outcome_eq_zero {run : Run} (filter : EventFilter) :
    (run.outcome filter).code = 0 ↔ run.failure = none := by
  rw [outcome]
  rcases run.failure with - | f
  · simp
  · simp

theorem Run.report_outcome_of_failure {run : Run} {f : Failure} (h : run.failure = some f)
    (filter : EventFilter) : ∃ events, (run.outcome filter).report = events ++ f.text ++ "\n" := by
  rw [outcome, h]
  simp only [Option.map_some, Option.toList_some, List.foldl_append, List.foldl_cons,
    List.foldl_nil]
  exact ⟨_, rfl⟩

theorem Run.code_outcome_cases {run : Run} (filter : EventFilter) :
    (run.outcome filter).code = 0 ∨ (run.outcome filter).code = 1 := by
  rw [outcome]
  exact (ite_eq_or_eq _ _ _).symm

/-! ## Commands -/

theorem Request.ofArguments?_eq_some_iff {args : List String} {r : Request} :
    Request.ofArguments? args = some r ↔ Request.ofArguments args = .ok r := by
  rw [Request.ofArguments?]
  rcases Request.ofArguments args with e | r' <;> simp [Except.toOption]

theorem execute_of_request {args : List String} {r : Request}
    (hargs : Request.ofArguments? args = some r) (setting : Option String)
    (read : String → Except FileError ByteArray) (c : Console) :
    execute args setting read c = (r.run read c).outcome (EventFilter.ofSetting setting) := by
  rw [execute, Request.ofArguments?_eq_some_iff.mp hargs]

/-- **What a command delivers.** If the file is the text of a grammar that has the requested
generation, the output is the drawing of the walk, as far as it came, and the command fails exactly
if the walk underflows. On an output without room it fails also if anything is drawn, and then that
is the reason it gives. Otherwise nothing is delivered and the command fails. -/
theorem execute_delivers {args : List String} {r : Request}
    (hargs : Request.ofArguments? args = some r) (setting : Option String)
    (read : String → Except FileError ByteArray) :
    let ready := execute args setting read .ready
    let full := execute args setting read .full
    ((∃ t word, r.Prepares read t word) ↔
      ∃ content text g, read r.path = .ok content ∧ String.fromUTF8? content = some text ∧
        (Grammar.ofText text.toList).value = .ok g ∧ 1 ≤ r.generation) ∧
    ((¬∃ t word, r.Prepares read t word) →
      ready.output = #[] ∧ ready.code ≠ 0 ∧ full.code ≠ 0) ∧
    (∀ t word, r.Prepares read t word →
      let walk := t.walk .collect #[] word
      ready.output.toList = utf8 (r.layout.drawing walk.received.toList) ∧
      (ready.code = 0 ↔ ∀ i, walk.result ≠ .error (.underflow i)) ∧
      (full.code = 0 ↔ walk.received = #[] ∧ ∀ i, walk.result ≠ .error (.underflow i)) ∧
      (walk.received ≠ #[] → (r.run read .full).failure = some (.flushing .full) ∧
        ∃ events, full.report = events ++ ("Error: cannot flush segments\n\n" ++
          "Caused by:\n    No space left on device (os error 28)\n"))) ∧
    (ready.code = 0 ∨ ready.code = 1) ∧ (full.code = 0 ∨ full.code = 1) ∧
    ∀ console e, (r.run read console).failure ≠ some (.preparing e) := by
  intro ready full
  have hready : ready = (r.run read .ready).outcome (EventFilter.ofSetting setting) :=
    execute_of_request hargs setting read .ready
  have hfull : full = (r.run read .full).outcome (EventFilter.ofSetting setting) :=
    execute_of_request hargs setting read .full
  clear_value ready full
  subst hready hfull
  refine ⟨Request.exists_prepares_iff, ?_, ?_, Run.code_outcome_cases _,
    Run.code_outcome_cases _, Request.failure_run_ne_preparing⟩
  · intro hnone
    have hcode : ∀ c, ((r.run read c).outcome (EventFilter.ofSetting setting)).code ≠ 0 := by
      intro c
      rw [Ne, Run.code_outcome_eq_zero]
      rcases (Request.run_of_not_prepares hnone c).2 with ⟨e, hfailure⟩ | ⟨e, hfailure⟩
      · simp [hfailure]
      · simp [hfailure]
    exact ⟨(Request.run_of_not_prepares hnone .ready).1, hcode .ready, hcode .full⟩
  · intro t word h walk
    have hwalk := t.walkFailure_eq_none_iff word h.directions_pos
    have hready := h.run_eq .ready
    have hfull := h.run_eq .full
    refine ⟨?_, ?_, ?_, ?_⟩
    · rw [Run.outcome, hready.1, t.output_draw_ready]
    · rw [Run.code_outcome_eq_zero, hready.2, t.failure_draw_ready, hwalk]
    · rw [Run.code_outcome_eq_zero, hfull.2]
      by_cases hdrawn : walk.received = #[]
      · rw [t.failure_draw_full_of_eq_empty _ _ hdrawn, hwalk]
        exact (and_iff_right hdrawn).symm
      · rw [t.failure_draw_full_of_ne_empty _ _ hdrawn]
        simp [hdrawn]
    · intro hdrawn
      have hfailure := hfull.2.trans (t.failure_draw_full_of_ne_empty r.layout word hdrawn)
      obtain ⟨events, hreport⟩ := Run.report_outcome_of_failure hfailure (.ofSetting setting)
      refine ⟨hfailure, events, ?_⟩
      rw [hreport, String.append_assoc]
      exact congrArg (events ++ ·) (by decide +kernel)

/-- A branch that ends behind the first segment: that segment is delivered, though the command
fails, and on an output without room the reason given is that it could not be delivered. -/
theorem execute_delivers_underflow :
    let args := ["plant.txt", "2", "--format=csv"]
    let r : Request := ⟨"plant.txt", 2, .csv, Turtle.defaultStep⟩
    let read : String → Except FileError ByteArray := fun _ ↦ .ok "4 1 F F]F F".toUTF8
    let t : Turtle := ⟨⟨4⟩, Turtle.defaultStep, .conventional⟩
    Request.ofArguments? args = some r ∧ r.Prepares read t "F]F".toList ∧
      (execute args none read .ready).output.toList = utf8 "0,0,1,0\n".toList ∧
      (execute args none read .ready).code = 1 ∧ (execute args none read .full).code = 1 ∧
      (r.run read .full).failure = some (.flushing .full) := by
  intro args r read t
  have hargs : Request.ofArguments? args = some r := by cbv
  have hgrammar : (Grammar.ofText "4 1 F F]F F".toList).value =
      .ok ⟨4, Rules.ofList [('F', "F]F".toList)], "F".toList⟩ := by decide +kernel
  have hprepares : r.Prepares read t "F]F".toList :=
    .intro rfl (by decide +kernel) hgrammar (by decide +kernel)
  have hresult : (t.walk .collect #[] "F]F".toList).result = .error (.underflow 1) := by
    decide +kernel
  have hreceived : (t.walk .collect #[] "F]F".toList).received =
      #[⟨Point.origin, ⟨1, 0⟩⟩] := by decide +kernel
  have hdrawn : (t.walk .collect #[] "F]F".toList).received ≠ #[] := by
    rw [hreceived]
    decide +kernel
  obtain ⟨-, -, hrun, hready, hfull, -⟩ := execute_delivers hargs none read
  obtain ⟨houtput, hzero, hzero', hflush⟩ := hrun t _ hprepares
  refine ⟨hargs, hprepares, ?_, ?_, ?_, ?_⟩
  · rw [houtput, hreceived]
    decide +kernel
  · exact hready.resolve_left fun h ↦ hzero.mp h 1 hresult
  · exact hfull.resolve_left fun h ↦ (hzero'.mp h).2 1 hresult
  · exact (hflush hdrawn).1

end Lindenmayer
