import Lindenmayer.Numeral.Trigonometry
import Lindenmayer.Point

/-!
# The compass

A turtle faces one of finitely many directions, evenly spaced around the circle and numbered
counter-clockwise from the first axis. A compass knows their number; the unit vector of a direction
is computed when it is asked for.
-/

namespace Lindenmayer

/-- The directions a turtle can face. -/
structure Compass where
  /-- The number of directions. -/
  directions : UInt64
deriving DecidableEq

namespace Compass

/-- A whole turn, the single-precision number nearest to it in radians. -/
def turn : Float32 := 6.2831854820251465

variable (c : Compass)

/-- The angle of a direction, in radians. -/
def angle (heading : UInt64) : Float32 :=
  turn * heading.toFloat32 / c.directions.toFloat32

/-- The unit vector of a direction. -/
def vector (heading : UInt64) : Point :=
  ⟨Numeral.cosine (c.angle heading), Numeral.sine (c.angle heading)⟩

/-- The unit vector of a direction, if the compass has it. -/
def unit? (heading : UInt64) : Option Point :=
  if heading < c.directions then some (c.vector heading) else none

/-- The angle between neighbouring directions, in degrees. -/
def quantum : Float32 :=
  360 / c.directions.toFloat32

/-- Whether there is no direction at all. -/
def isEmpty : Bool :=
  c.directions == 0

end Compass

end Lindenmayer
