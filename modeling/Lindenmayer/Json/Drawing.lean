import Lindenmayer.Json.Reader
import Lindenmayer.Layout
import Lindenmayer.Walk

/-!
# JSON forms of drawings

Segments, poses and reports are records; the members stand in the order of the fields below. An
operation is its name, or an object with its name as the only member and null as the value.
-/

namespace Lindenmayer

namespace Json.Reader

/-- Reads a point. -/
def point : Reader Point :=
  (fun p ↦ ⟨p.1, p.2⟩) <$> pair real

end Json.Reader

open Json (Reader)
open Json.Reader (Slot natural point pair record)

/-! ## Segments -/

namespace Segment

/-- The fields of a segment as far as they are read. -/
structure Parts where
  /-- The start. -/
  start : Option Point := none
  /-- The end. -/
  stop : Option Point := none

/-- The members, in the order of the fields. -/
def slots : List (Slot Parts) :=
  [⟨"start", fun s ↦ s.start.isSome, fun s ↦ do return { s with start := ← point }⟩,
    ⟨"end", fun s ↦ s.stop.isSome, fun s ↦ do return { s with stop := ← point }⟩]

/-- Reads a segment. -/
def fromJson : Reader Segment :=
  record slots {} fun s ↦ return ⟨← s.start, ← s.stop⟩

/-- Writes a segment. -/
def toJson (s : Segment) : List Char :=
  Layout.object s

end Segment

/-! ## Poses -/

namespace Pose

/-- The fields of a pose as far as they are read. -/
structure Parts where
  /-- The heading. -/
  heading : Option UInt64 := none
  /-- The place. -/
  position : Option Point := none

/-- The members, in the order of the fields. -/
def slots : List (Slot Parts) :=
  [⟨"heading", fun s ↦ s.heading.isSome, fun s ↦ do return { s with heading := ← natural }⟩,
    ⟨"position", fun s ↦ s.position.isSome, fun s ↦ do return { s with position := ← point }⟩]

/-- Reads a pose. -/
def fromJson : Reader Pose :=
  record slots {} fun s ↦ return ⟨← s.heading, ← s.position⟩

/-- Writes a pose. -/
def toJson (p : Pose) : List Char :=
  Json.object
    [("heading".toList, Json.natural p.heading.toNat), ("position".toList, Json.point p.position)]

end Pose

/-! ## Reports -/

namespace Report

/-- The fields of a report as far as they are read. -/
structure Parts where
  /-- The number of segments. -/
  segments : Option UInt64 := none
  /-- The number of moves. -/
  moves : Option UInt64 := none
  /-- The greatest depth. -/
  maxDepth : Option UInt64 := none
  /-- The last pose. -/
  final : Option Pose := none
  /-- The corners of the box. -/
  extent : Option (Point × Point) := none

/-- The members, in the order of the fields. -/
def slots : List (Slot Parts) :=
  [⟨"segments", fun s ↦ s.segments.isSome, fun s ↦ do return { s with segments := ← natural }⟩,
    ⟨"moves", fun s ↦ s.moves.isSome, fun s ↦ do return { s with moves := ← natural }⟩,
    ⟨"max_depth", fun s ↦ s.maxDepth.isSome, fun s ↦ do return { s with maxDepth := ← natural }⟩,
    ⟨"final_state", fun s ↦ s.final.isSome, fun s ↦ do
      return { s with final := ← Pose.fromJson }⟩,
    ⟨"extent", fun s ↦ s.extent.isSome, fun s ↦ do return { s with extent := ← pair point }⟩]

/-- Reads a report. -/
def fromJson : Reader Report :=
  record slots {} fun s ↦ do
    let extent ← s.extent
    return ⟨(← s.segments).toNat, (← s.moves).toNat, (← s.maxDepth).toNat, ← s.final, extent.1,
      extent.2⟩

/-- Writes a report. -/
def toJson (r : Report) : List Char :=
  Json.object
    [("segments".toList, Json.natural r.segments), ("moves".toList, Json.natural r.moves),
      ("max_depth".toList, Json.natural r.maxDepth), ("final_state".toList, r.final.toJson),
      ("extent".toList, Json.array [Json.point r.lower, Json.point r.upper])]

end Report

/-! ## Operations -/

namespace Op

/-- The name of an operation. -/
def name : Op → String
  | .draw => "Draw"
  | .move => "Move"
  | .turn .right => "TurnRight"
  | .turn .left => "TurnLeft"
  | .turn .around => "TurnAround"
  | .push => "Push"
  | .pop => "Pop"
  | .ignore => "Ignore"

/-- All operations. -/
def all : List Op :=
  [.draw, .move, .turn .right, .turn .left, .turn .around, .push, .pop, .ignore]

/-- The operation with a given name. -/
def ofName? (name : List Char) : Option Op :=
  all.find? fun op ↦ op.name.toList == name

/-- Reads the name of an operation. -/
def named : Reader Op := do
  match ofName? (← Json.Reader.text) with
  | none => throw .mistyped
  | some op => return op

/-- Reads an operation. -/
def fromJson : Reader Op
  | [] => .error .truncated
  | .text value skipped :: ts => named (.text value skipped :: ts)
  | .beginObject :: ts =>
    (do
      let op ← named
      Json.Reader.colon
      Json.Reader.null
      Json.Reader.expect fun | .endObject => true | _ => false
      return op : Reader Op) ts
  | _ => .error .malformed

/-- Writes an operation. -/
def toJson (op : Op) : List Char :=
  Json.string op.name.toList

end Op

end Lindenmayer
