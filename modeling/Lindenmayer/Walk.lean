import Lindenmayer.Compass
import Lindenmayer.Event
import Lindenmayer.Lexicon
import Lindenmayer.Segment

/-!
# Walks

A turtle walks along a word, one symbol at a time, and draws the segments of the steps it takes with
the pen down. A branch remembers the pose at its start, and its end brings the turtle back there.

## The state and the sink are separate

`State.apply` is one operation: it knows nothing of a sink and gives the segment it draws, if any.
`Turtle.walkFrom` passes that segment on. So a sink has no influence on a walk but to end it, and
what a walk draws can be stated without any sink.
-/

namespace Lindenmayer

/-! ## States -/

/-- What a turtle carries from one symbol to the next. -/
structure State where
  /-- Where it is. -/
  pose : Pose
  /-- The poses at the starts of the branches it is in, the innermost first. -/
  branches : List Pose
  /-- The number of steps with the pen down. -/
  segments : Nat
  /-- The number of steps with the pen up. -/
  moves : Nat
  /-- The greatest number of branches it was in at once. -/
  maxDepth : Nat
  /-- The lower corner of the box around its places. -/
  lower : Point
  /-- The upper corner of that box. -/
  upper : Point
deriving DecidableEq

namespace State

/-- The state at the start of a walk. -/
def start : State where
  pose := Pose.start
  branches := []
  segments := 0
  moves := 0
  maxDepth := 0
  lower := Point.origin
  upper := Point.origin

/-- The state after a step to a place, before it is counted. -/
def goTo (s : State) (p : Point) : State :=
  { s with
    pose := { s.pose with position := p }
    lower := s.lower.lower p
    upper := s.upper.upper p }

end State

/-! ## Turtles -/

/-- What stays the same during a walk. -/
structure Turtle where
  /-- The directions the turtle can face. -/
  compass : Compass
  /-- The length of a step. -/
  step : Float32
  /-- What the symbols of a word mean. -/
  lexicon : Lexicon

namespace Turtle

/-- The length of a step, unless another one is asked for. -/
def defaultStep : Float32 := 1

/-- A turtle with the conventional lexicon. It needs a direction to face. -/
def make (directions : UInt64) (step : Float32) : Except Error Turtle :=
  if directions = 0 then .error (.directionCount 0)
  else .ok ⟨⟨directions⟩, step, Lexicon.conventional⟩

theorem make_eq_ok {directions : UInt64} (h : 0 < directions) (step : Float32) :
    make directions step = .ok ⟨⟨directions⟩, step, Lexicon.conventional⟩ :=
  if_neg (UInt64.pos_iff_ne_zero.mp h)

variable (t : Turtle)

/-- The place one step ahead, if the compass has the direction of the pose. -/
def ahead? (p : Pose) : Option Point :=
  (t.compass.unit? p.heading).map fun u ↦ p.position + u.scale t.step

end Turtle

/-- The outcome of one operation: the next state, and the segment drawn on the way, if any. -/
structure Advance where
  /-- The next state. -/
  state : State
  /-- The segment drawn. -/
  drawn : Option Segment
deriving DecidableEq

/-- One operation, at the symbol with the given index. -/
def State.apply (t : Turtle) (index : Nat) (op : Op) (s : State) : Except Error Advance :=
  match op with
  | .draw =>
    match t.ahead? s.pose with
    | none => .error (.offCompass s.pose.heading)
    | some p =>
      .ok ⟨{ s.goTo p with segments := s.segments + 1 }, some ⟨s.pose.position, p⟩⟩
  | .move =>
    match t.ahead? s.pose with
    | none => .error (.offCompass s.pose.heading)
    | some p => .ok ⟨{ s.goTo p with moves := s.moves + 1 }, none⟩
  | .turn u => .ok ⟨{ s with pose := s.pose.turn t.compass.directions u }, none⟩
  | .push =>
    .ok ⟨{ s with
      branches := s.pose :: s.branches
      maxDepth := max s.maxDepth (s.branches.length + 1) }, none⟩
  | .pop =>
    match s.branches with
    | [] => .error (.underflow index)
    | p :: rest => .ok ⟨{ s with pose := p, branches := rest }, none⟩
  | .ignore => .ok ⟨s, none⟩

namespace Turtle

/-! ## Walks -/

/-- Walks along a word from a state and the index of its first symbol, with a sink in a state. -/
def walkFrom (t : Turtle) (sink : Sink σ) : Nat → List Char → State → σ → Except Error State × σ
  | _, [], s, received => (.ok s, received)
  | index, c :: word, s, received =>
    match s.apply t index (t.lexicon c) with
    | .error e => (.error e, received)
    | .ok ⟨next, none⟩ => t.walkFrom sink (index + 1) word next received
    | .ok ⟨next, some segment⟩ =>
      match sink.emit received segment with
      | (received, none) => t.walkFrom sink (index + 1) word next received
      | (received, some failure) => (.error (.sink failure), received)

end Turtle

/-- The summary of a walk that reached the end of its word. -/
structure Report where
  /-- The number of segments drawn. -/
  segments : Nat
  /-- The number of steps with the pen up. -/
  moves : Nat
  /-- The greatest number of branches the turtle was in at once. -/
  maxDepth : Nat
  /-- The pose after the last symbol. -/
  final : Pose
  /-- The lower corner of the box around all places of the turtle, the origin among them. -/
  lower : Point
  /-- The upper corner of that box. -/
  upper : Point
deriving DecidableEq

/-- The summary of a state. -/
def State.report (s : State) : Report where
  segments := s.segments
  moves := s.moves
  maxDepth := s.maxDepth
  final := s.pose
  lower := s.lower
  upper := s.upper

/-- The event that records the end of a walk. -/
def State.event (s : State) : Event :=
  .walked s.segments s.moves s.maxDepth s.branches.length

/-- What a walk leaves behind. -/
structure Walk (σ : Type) where
  /-- Its summary, or why it ended early. -/
  result : Except Error Report
  /-- The state of the sink. -/
  received : σ
  /-- What was recorded. -/
  log : List Event

/-- Walks along a word from the origin. -/
def Turtle.walk (t : Turtle) (sink : Sink σ) (received : σ) (word : List Char) : Walk σ :=
  match t.walkFrom sink 0 word State.start received with
  | (.ok s, received) => ⟨.ok s.report, received, [s.event]⟩
  | (.error e, received) => ⟨.error e, received, []⟩

end Lindenmayer
