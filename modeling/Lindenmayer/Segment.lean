import Lindenmayer.Error
import Lindenmayer.Point

/-!
# Segments and their receivers

A drawing is a sequence of line segments, handed one at a time to a sink. A sink is a machine: it
has a state, takes a segment, and says whether it failed. What it took before a failure stays in its
state, so the state after a failure is part of the answer.
-/

namespace Lindenmayer

/-! ## Segments -/

/-- A line from one point to another. -/
structure Segment where
  /-- Where the line starts. -/
  start : Point
  /-- Where it ends. -/
  stop : Point
deriving DecidableEq

namespace Segment

/-- The coordinates of the start, then those of the end. -/
def coordinates (s : Segment) : List Float32 :=
  [s.start.x, s.start.y, s.stop.x, s.stop.y]

/-- The displacement from the start to the end. -/
def direction (s : Segment) : Point :=
  s.stop - s.start

/-- Whether all coordinates compare equal as numbers. -/
def coincides (s t : Segment) : Bool :=
  s.start.coincides t.start && s.stop.coincides t.stop

end Segment

/-! ## Sinks -/

/-- A receiver of segments with states in `σ`. -/
structure Sink (σ : Type) where
  /-- The state after a segment, and the failure to take it, if it was not taken. -/
  emit : σ → Segment → σ × Option DeviceError

namespace Sink

/-- Keeps every segment. -/
def collect : Sink (Array Segment) where
  emit taken s := (taken.push s, none)

/-- Keeps nothing. -/
def discard : Sink Unit where
  emit _ _ := ((), none)

/-- Keeps `limit` segments and fails at every further one. -/
def failing (limit : Nat) (failure : DeviceError) : Sink (Array Segment) where
  emit taken s := if taken.size < limit then (taken.push s, none) else (taken, some failure)

/-- Hands segments to a sink one after another, also after a failure, and lists what it said. -/
def emitAll (sink : Sink σ) : σ → List Segment → σ × List (Option DeviceError)
  | state, [] => (state, [])
  | state, s :: rest =>
    let (state, answer) := sink.emit state s
    let (state, answers) := sink.emitAll state rest
    (state, answer :: answers)

end Sink

end Lindenmayer
