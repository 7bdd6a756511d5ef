/-!
# Points of the plane

Coordinates are single-precision numbers and every operation rounds once per component, so a sum of
steps depends on the order in which they are taken. There are two notions of equality. Points are
*the same* when their coordinates have equal bits; they *coincide* when the coordinates compare
equal as numbers, so that the zeros coincide and nothing coincides with a coordinate that is not a
number.
-/

namespace Lindenmayer

/-- A point, or a displacement. -/
structure Point where
  /-- The first coordinate. -/
  x : Float32
  /-- The second coordinate. -/
  y : Float32
deriving DecidableEq

namespace Point

/-- The point where every drawing starts. -/
def origin : Point := ⟨0, 0⟩

instance : Inhabited Point := ⟨origin⟩

/-- The displacement by `q` from `p`. -/
def add (p q : Point) : Point := ⟨p.x + q.x, p.y + q.y⟩

/-- The displacement from `q` to `p`. -/
def sub (p q : Point) : Point := ⟨p.x - q.x, p.y - q.y⟩

/-- The displacement `p`, `k` times as long. -/
def scale (p : Point) (k : Float32) : Point := ⟨p.x * k, p.y * k⟩

instance : Add Point := ⟨add⟩

instance : Sub Point := ⟨sub⟩

/-- The lesser number; the second one if the two do not compare. -/
def lesser (a b : Float32) : Float32 := if a < b then a else b

/-- The greater number; the second one if the two do not compare. -/
def greater (a b : Float32) : Float32 := if b < a then a else b

/-- The componentwise lesser of an old point and a new one. Where either component is not a number,
the new one is taken. -/
def lower (p q : Point) : Point := ⟨lesser p.x q.x, lesser p.y q.y⟩

/-- The componentwise greater of an old point and a new one, with the same rule. -/
def upper (p q : Point) : Point := ⟨greater p.x q.x, greater p.y q.y⟩

/-- Whether the coordinates compare equal as numbers. -/
def coincides (p q : Point) : Bool := p.x == q.x && p.y == q.y

end Point

end Lindenmayer
