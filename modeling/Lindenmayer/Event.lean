import Lindenmayer.Numeral.Style
import Lindenmayer.Point

/-!
# Events

What happens on the way from a grammar to a drawing is recorded as events, in order, beside the
result. An event has a level, a place it comes from, a fixed message and a few named fields; who
records it decides nothing about whether, or how, it is shown.
-/

namespace Lindenmayer

open Text (natural integer)

/-! ## Events -/

/-- How much an event matters, from the most to the least. -/
inductive Level where
  /-- Something failed. -/
  | error
  /-- Something was passed over. -/
  | warn
  /-- A stage was reached. -/
  | info
  /-- A step inside a stage. -/
  | debug
  /-- Anything finer. -/
  | trace
deriving DecidableEq, Repr

/-- Levels in increasing order of detail, from one. -/
def Level.rank : Level → Nat
  | .error => 1
  | .warn => 2
  | .info => 3
  | .debug => 4
  | .trace => 5

/-- The name of a level in a record. -/
def Level.name : Level → String
  | .error => "ERROR"
  | .warn => "WARN"
  | .info => "INFO"
  | .debug => "DEBUG"
  | .trace => "TRACE"

/-- Something that happened. -/
inductive Event where
  /-- A rule was passed over because its symbol has one. Rules of a text are numbered from one. -/
  | duplicateRule (symbol : Char) (rule : Option Nat)
  /-- Tokens behind the end of a grammar text were passed over. -/
  | trailingTokens (count : Nat)
  /-- The next generation of a word was derived. -/
  | derived (generation : Nat) (bytes : Nat)
  /-- A word was drawn to its end. -/
  | walked (segments moves maxDepth unclosed : Nat)
  /-- A grammar was read from a file. -/
  | loaded (path : String) (directions : UInt64) (rules : Nat)
  /-- A grammar was expanded to a generation. -/
  | expanded (generation : Int) (bytes : Nat)
  /-- A drawing begins. -/
  | walking (directions : UInt64) (step : Float32)
  /-- A drawing was written out. -/
  | finished (segments maxDepth : Nat) (lower upper : Point)
deriving DecidableEq

/-- The value of a field. -/
inductive Datum where
  /-- A text, shown as it is. -/
  | text (content : String)
  /-- An integer. -/
  | integer (value : Int)
  /-- A single-precision number. -/
  | real (value : Float32)
deriving DecidableEq

namespace Event

/-- The level of an event. -/
def level : Event → Level
  | .duplicateRule .. | .trailingTokens .. => .warn
  | .derived .. | .walked .. => .debug
  | .loaded .. | .expanded .. | .walking .. | .finished .. => .info

/-- The place an event comes from. -/
def target : Event → String
  | .duplicateRule .. | .trailingTokens .. => "turtle_fractals::grammar"
  | .derived .. => "turtle_fractals::expander"
  | .walked .. => "turtle_fractals::interpreter"
  | .loaded .. | .expanded .. | .walking .. | .finished .. => "turtle_fractals"

/-- What an event says. -/
def message : Event → String
  | .duplicateRule .. => "duplicate production rule ignored"
  | .trailingTokens .. => "ignoring tokens after the axiom"
  | .derived .. => "rewrite pass complete"
  | .walked .. => "turtle walk complete"
  | .loaded .. => "grammar loaded"
  | .expanded .. => "expanded"
  | .walking .. => "walking"
  | .finished .. => "done"

/-- The named fields of an event, in order. -/
def fields : Event → List (String × Datum)
  | .duplicateRule symbol rule =>
    ("symbol", .text symbol.toString) :: (rule.map fun n ↦ ("rule", Datum.integer n)).toList
  | .trailingTokens count => [("trailing", .integer count)]
  | .derived generation bytes => [("generation", .integer generation), ("len", .integer bytes)]
  | .walked segments moves maxDepth unclosed =>
    [("segments", .integer segments), ("moves", .integer moves), ("max_depth", .integer maxDepth),
      ("unclosed", .integer unclosed)]
  | .loaded path directions rules =>
    [("grammar", .text path), ("directions", .integer directions.toNat), ("rules", .integer rules)]
  | .expanded generation bytes => [("generations", .integer generation), ("len", .integer bytes)]
  | .walking directions step => [("directions", .integer directions.toNat), ("step", .real step)]
  | .finished segments maxDepth lower upper =>
    [("segments", .integer segments), ("max_depth", .integer maxDepth), ("min_x", .real lower.x),
      ("min_y", .real lower.y), ("max_x", .real upper.x), ("max_y", .real upper.y)]

/-- The names under which an event is known to have something: those of its fields, and the one of
what it says. -/
def fieldNames (e : Event) : List String :=
  "message" :: e.fields.map Prod.fst

end Event

/-! ## Lines of a record -/

/-- Numbers in a record are written in double precision: shortest digits with a half going up, the
point moved from 1e-4 up to below 1e16, and whole numbers with a zero behind the point. -/
def Datum.style : Numeral.Style where
  decimal m := m.shortest .up
  least := some (-4)
  greatest := some 15
  whole := ".0"
  plus := false
  width := 1
  nan := "NaN"
  infinity := "inf"
  negativeInfinity := "-inf"

/-- The written form of a field's value. -/
def Datum.write : Datum → String
  | .text content => content
  | .integer value => String.ofList (Text.integer value)
  | .real value => String.ofList (style.write (Numeral.Value.ofFloat32 value).widen)

/-- An event as one line of a record. -/
def Event.line (e : Event) : String :=
  e.fields.foldl (fun line f ↦ line ++ " " ++ f.1 ++ "=" ++ f.2.write)
    (e.level.name ++ " " ++ e.target ++ ": " ++ e.message)

/-! ## Results with a record -/

/-- A result and the events on the way to it. -/
structure Logged (α : Type) where
  /-- The result. -/
  value : α
  /-- What happened, in order. -/
  log : List Event

end Lindenmayer
