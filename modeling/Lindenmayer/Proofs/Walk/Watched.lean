import Lindenmayer.Proofs.Walk.Course

/-!
# Watched sinks

What a sink is offered is more than what it takes: the segment that it refuses is offered too. To
speak of all of them a sink is watched. The watcher sees each segment that is offered and keeps
something of it; it has no influence on the sink. A walk into a watched sink is therefore the walk
into the sink itself, with what was seen beside what was received.
-/

namespace Lindenmayer

namespace Sink

variable {σ τ : Type}

/-- The same sink, with something kept of each segment that it is offered. -/
def watched (see : τ → Segment → τ) (sink : Sink σ) : Sink (σ × τ) where
  emit state segment :=
    (((sink.emit state.1 segment).1, see state.2 segment), (sink.emit state.1 segment).2)

/-- The same sink, with the list of all segments that it is offered. -/
def recording (sink : Sink σ) : Sink (σ × List Segment) :=
  sink.watched fun offered segment ↦ offered ++ [segment]

theorem emit_watched (see : τ → Segment → τ) (sink : Sink σ) (received : σ) (seen : τ)
    (segment : Segment) :
    (sink.watched see).emit (received, seen) segment =
      (((sink.emit received segment).1, see seen segment), (sink.emit received segment).2) := rfl

/-- Watching changes neither what a sink takes nor whether it fails. -/
theorem feed_watched (see : τ → Segment → τ) (sink : Sink σ) (received : σ) (seen : τ)
    (segments : List Segment) :
    sink.feed received segments =
      (((sink.watched see).feed (received, seen) segments).1.1,
        ((sink.watched see).feed (received, seen) segments).2) := by
  induction segments generalizing received seen with
  | nil => rfl
  | cons segment rest ih =>
    rw [feed, feed, emit_watched]
    rcases sink.emit received segment with ⟨received, failure | failure⟩
    · exact ih received (see seen segment)
    · rfl

/-- A sink is offered the segments in their order, up to the one that it refuses. -/
theorem exists_prefix_feed_recording (sink : Sink σ) (received : σ) (seen segments : List Segment) :
    ∃ offered, offered <+: segments ∧
      (sink.recording.feed (received, seen) segments).1.2 = seen ++ offered := by
  induction segments generalizing received seen with
  | nil => exact ⟨[], List.prefix_refl [], (List.append_nil seen).symm⟩
  | cons segment rest ih =>
    rw [feed, recording, emit_watched]
    rcases sink.emit received segment with ⟨received, failure | failure⟩
    · obtain ⟨offered, hprefix, hseen⟩ := ih received (seen ++ [segment])
      exact ⟨segment :: offered, (List.prefix_cons_inj segment).mpr hprefix,
        hseen.trans (List.append_assoc seen [segment] offered)⟩
    · exact ⟨[segment], ⟨rest, rfl⟩, rfl⟩

end Sink

theorem Turtle.walk_watched {σ τ : Type} (t : Turtle) (see : τ → Segment → τ) (sink : Sink σ)
    (received : σ) (seen : τ) (word : List Char) :
    t.walk (sink.watched see) (received, seen) word =
      ⟨(t.walk sink received word).result,
        ((t.walk sink received word).received,
          ((sink.watched see).feed (received, seen) (t.courseOf word).drawn).1.2),
        (t.walk sink received word).log⟩ := by
  rw [walk_eq_conclude, walk_eq_conclude, sink.feed_watched see received seen]
  rcases (sink.watched see).feed (received, seen) (t.courseOf word).drawn with
    ⟨⟨last, seen⟩, failure | failure⟩
  · rw [Course.conclude, Course.conclude]
    cases (t.courseOf word).outcome <;> rfl
  · rfl

end Lindenmayer
