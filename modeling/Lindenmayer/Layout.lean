import Lindenmayer.Device
import Lindenmayer.Json.Writer
import Lindenmayer.Segment
import Lindenmayer.Text.Utf8

/-!
# Layouts of a drawing

A drawing is written as one line of text per segment. The three layouts differ in what stands around
the coordinates and in how a coordinate is written; each is a number style and a template.

A line is offered to the device as a whole, and the device takes what fits: where it stops inside a
line, the rest of that line is lost and no later line is begun on a device without room.
-/

namespace Lindenmayer

open Numeral (Style Magnitude Value)

/-! ## Number styles -/

/-- Six digits. The power of ten of the leading one after rounding decides on the place at which the
number itself is rounded if it is written without an exponent. -/
def sixDigits (m : Magnitude) : Numeral.Decimal :=
  let d := m.significant .even 6
  if -4 ≤ d.order && d.order < 6 then m.roundTo .even (d.order - 5) else d

/-- Numbers of plotting scripts: six digits, an exponent of at least two digits with a sign for
numbers below 1e-4 and from 1e6. -/
def scriptNumbers : Style where
  decimal := sixDigits
  least := some (-4)
  greatest := some 5
  whole := ""
  plus := true
  width := 2
  nan := "nan"
  infinity := "inf"
  negativeInfinity := "-inf"

/-- Numbers of tables: the shortest digits, a half going up, never with an exponent. -/
def tableNumbers : Style where
  decimal m := m.shortest .up
  least := none
  greatest := none
  whole := ""
  plus := false
  width := 1
  nan := "NaN"
  infinity := "inf"
  negativeInfinity := "-inf"

/-- A coordinate in a given style. -/
def coordinate (style : Style) (x : Float32) : List Char :=
  style.write (Value.ofFloat32 x)

/-! ## Lines -/

/-- A layout of a drawing. -/
inductive Layout where
  /-- One `line` command of a plotting script for each segment. -/
  | matlab
  /-- One row of a table for each segment. -/
  | csv
  /-- One JSON object for each segment. -/
  | json
deriving DecidableEq, Repr

namespace Layout

/-- The name of a layout. -/
def name : Layout → String
  | .matlab => "matlab"
  | .csv => "csv"
  | .json => "json"

/-- The layout with a given name. -/
def ofName? (name : String) : Option Layout :=
  [matlab, csv, json].find? fun l ↦ l.name == name

/-- A segment as a `line` command: the first coordinates of both ends, then the second ones. -/
def script (s : Segment) : List Char :=
  let x := coordinate scriptNumbers
  "line([".toList ++ x s.start.x ++ ' ' :: x s.stop.x ++ "],[".toList ++ x s.start.y ++
    ' ' :: x s.stop.y ++ "])".toList

/-- A segment as a row. -/
def row (s : Segment) : List Char :=
  [','].intercalate (s.coordinates.map (coordinate tableNumbers))

/-- A segment as a JSON object. -/
def object (s : Segment) : List Char :=
  Json.object [("start".toList, Json.point s.start), ("end".toList, Json.point s.stop)]

/-- The text of a segment, without the end of its line. -/
def text : Layout → Segment → List Char
  | .matlab => script
  | .csv => row
  | .json => object

/-- The line of a segment. -/
def line (l : Layout) (s : Segment) : List Char :=
  l.text s ++ ['\n']

/-- The text of a drawing. -/
def drawing (l : Layout) (segments : List Segment) : List Char :=
  segments.flatMap l.line

end Layout

/-- The sink that writes each segment to a device. -/
def Sink.writing (l : Layout) : Sink Device where
  emit d s := d.write (Text.utf8 (l.line s))

end Lindenmayer
