import Lindenmayer.Layout
import Lindenmayer.Numeral.Reading
import Lindenmayer.Walk

/-!
# The command line

A command names the file of a grammar and a generation, and may choose a layout and a step length:

```text
PATH GENERATION [--format matlab|csv|json] [--step LENGTH]
```

Options may stand anywhere, each once, with their value behind an equals sign or as the next
argument. An argument that begins with a hyphen is not a value by itself; two hyphens alone end the
options, and a negative number is accepted where the generation is still to come.

## The first of two faults

Arguments are read one after another, each value where it stands. A question for help ends the
reading, so it is answered whatever follows it, but not behind an argument that is out of place.
-/

namespace Lindenmayer

open Numeral (readFloat32?)
open Text (readInt64?)

/-- What a command asks for. -/
structure Request where
  /-- The file of the grammar. -/
  path : String
  /-- The generation to draw. -/
  generation : Int
  /-- The layout of the drawing. -/
  layout : Layout
  /-- The length of a step. -/
  step : Float32

/-- An option of the command. -/
inductive Choice where
  /-- The layout. -/
  | format
  /-- The step length. -/
  | step
deriving DecidableEq, Repr

/-- The option with a given name. -/
def Choice.ofName? (name : List Char) : Option Choice :=
  if name = "format".toList then some .format
  else if name = "step".toList then some .step
  else none

/-- What an argument is by its first characters. -/
inductive Role where
  /-- The end of the options. -/
  | ends
  /-- An option with its value. -/
  | assigns (c : Choice) (value : String)
  /-- An option whose value is the next argument. -/
  | awaits (c : Choice)
  /-- A question for help. -/
  | asks
  /-- An option that there is not. -/
  | unknown
  /-- Anything else. -/
  | plain
deriving DecidableEq, Repr

/-- The role of an argument. -/
def Role.ofArgument (arg : String) : Role :=
  match arg.toList with
  | ['-', '-'] => .ends
  | ['-', '-', 'h', 'e', 'l', 'p'] | '-' :: 'h' :: _ => .asks
  | '-' :: '-' :: cs =>
    match Choice.ofName? (cs.takeWhile (· ≠ '=')), cs.dropWhile (· ≠ '=') with
    | none, _ => .unknown
    | some c, [] => .awaits c
    | some c, _ :: value => .assigns c (String.ofList value)
  | _ => .plain

/-- Why a list of arguments is no request. -/
inductive Dismissal where
  /-- It asks for help. -/
  | help
  /-- An argument is out of place, or one is missing. -/
  | refused
deriving DecidableEq, Repr

/-- What arguments have said so far. -/
structure Arguments where
  /-- The file of the grammar. -/
  path : Option String := none
  /-- The generation to draw. -/
  generation : Option Int := none
  /-- The layout of the drawing. -/
  layout : Option Layout := none
  /-- The length of a step. -/
  step : Option Float32 := none
deriving DecidableEq

namespace Arguments

/-- Reads an argument that belongs to no option; there are at most two. -/
def place (a : Arguments) (value : String) : Option Arguments :=
  match a.path, a.generation with
  | none, _ => if value.isEmpty then none else some { a with path := some value }
  | some _, none => (readInt64? value.toList).map fun i ↦ { a with generation := some i }
  | some _, some _ => none

/-- Reads the value of an option, unless it has one. -/
def choose (a : Arguments) (c : Choice) (value : String) : Option Arguments :=
  match c with
  | .format =>
    if a.layout.isSome then none
    else (Layout.ofName? value).map fun layout ↦ { a with layout := some layout }
  | .step =>
    if a.step.isSome then none
    else (readFloat32? value.toList).map fun step ↦ { a with step := some step }

/-- Whether what follows a hyphen makes it a negative number: digits, a point that is not the first
character, and an `e` that is neither the first character nor the last, with digits only behind
it. -/
def isNumber (cs : List Char) : Bool :=
  let mantissa := cs.takeWhile (· ≠ 'e')
  let power := cs.dropWhile (· ≠ 'e')
  let whole := mantissa.takeWhile (· ≠ '.')
  let fraction := mantissa.dropWhile (· ≠ '.')
  whole.all Char.isDigit && (fraction.drop 1).all Char.isDigit &&
    (fraction.isEmpty || !whole.isEmpty) && (power.drop 1).all Char.isDigit &&
    (power.isEmpty || (!mantissa.isEmpty && power.length ≠ 1))

/-- Whether an argument can stand for a value in its place. -/
def isValue (a : Arguments) (arg : String) : Bool :=
  match arg.toList with
  | '-' :: c :: cs => a.path.isSome && a.generation.isNone && isNumber (c :: cs)
  | _ => true

/-- Reads arguments by their roles. -/
def scan : Arguments → List String → Except Dismissal Arguments
  | a, [] => .ok a
  | a, arg :: rest =>
    match Role.ofArgument arg with
    | .ends => (rest.foldlM place a).elim (.error .refused) .ok
    | .assigns c value => (a.choose c value).elim (.error .refused) fun a ↦ scan a rest
    | .awaits c =>
      match rest with
      | [] => .error .refused
      | value :: rest =>
        if a.isValue value then
          (a.choose c value).elim (.error .refused) fun a ↦ scan a rest
        else .error .refused
    | .asks => .error .help
    | .unknown => .error .refused
    | .plain =>
      if a.isValue arg then (a.place arg).elim (.error .refused) fun a ↦ scan a rest
      else .error .refused

/-- What the arguments ask for, if they name a file and a generation. -/
def request? (a : Arguments) : Option Request := do
  return ⟨← a.path, ← a.generation, a.layout.getD .matlab, a.step.getD Turtle.defaultStep⟩

end Arguments

/-- What is said about arguments that are no command. -/
def usage : String :=
  "usage: lindenmayer PATH GENERATION [--format matlab|csv|json] [--step LENGTH]"

/-- What is said to a question for help. -/
def help : String :=
  "Draws Lindenmayer-system fractals as line segments\n\n" ++ usage ++ "\n\n" ++
    "  PATH             the file of the grammar\n" ++
    "  GENERATION       the generation to draw; 1 draws the axiom itself\n" ++
    "  --format NAME    the layout of the drawing: matlab, csv or json (matlab)\n" ++
    "  --step LENGTH    the length of one forward step (1.0)\n" ++
    "  -h, --help       this help\n"

/-- What a list of arguments asks for, if it is a request. -/
def Request.ofArguments (args : List String) : Except Dismissal Request := do
  let a ← Arguments.scan {} args
  a.request?.elim (.error .refused) .ok

/-- What a list of arguments asks for, if it is a request and nothing else is of interest. -/
def Request.ofArguments? (args : List String) : Option Request :=
  (Request.ofArguments args).toOption

end Lindenmayer
