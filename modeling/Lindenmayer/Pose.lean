import Lindenmayer.Point

/-!
# Poses and turns

The pose of a turtle is its place and the number of the direction it faces. Turns add to that number
modulo the number of directions.

## Words of 64 bits

Headings are 64-bit words, and the sum that a turn forms before it reduces can exceed the word. With
up to `2 ^ 63` directions, and a heading below their number, no sum does, and a turn is exact
modular arithmetic; beyond that a right turn wraps around.
-/

namespace Lindenmayer

/-- Where a turtle is and which way it faces. -/
structure Pose where
  /-- The number of the direction it faces. -/
  heading : UInt64
  /-- Its place. -/
  position : Point
deriving DecidableEq

/-- The pose at the start of a walk. -/
def Pose.start : Pose := ⟨0, Point.origin⟩

/-- A change of heading. -/
inductive Turn where
  /-- One direction clockwise. -/
  | right
  /-- One direction counter-clockwise. -/
  | left
  /-- Half of the directions, rounded down. -/
  | around
deriving DecidableEq, Repr

/-- The heading after a turn among `n` directions. -/
def Turn.heading (t : Turn) (n h : UInt64) : UInt64 :=
  match t with
  | .right => (h + n - 1) % n
  | .left => (h + 1) % n
  | .around => (h + n / 2) % n

namespace Pose

/-- The pose after a turn among `n` directions. -/
def turn (n : UInt64) (t : Turn) (p : Pose) : Pose :=
  { p with heading := t.heading n p.heading }

/-- The pose after a turn, unless there are no directions to turn to. -/
def turn? (n : UInt64) (t : Turn) (p : Pose) : Option Pose :=
  if n = 0 then none else some (p.turn n t)

end Pose

end Lindenmayer
