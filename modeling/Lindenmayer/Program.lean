import Lindenmayer.CommandLine
import Lindenmayer.EventFilter.Source
import Lindenmayer.Grammar.Source

/-!
# The program

A command reads a grammar, expands it, walks along the word and writes the drawing to the standard
output. What it leaves behind is an exit code, the bytes that reached the output, and the lines of
its report: the events that the filter shows and, after them, the failure.

## The buffer

The standard output is written to through a buffer. A failure of the device is noticed when the
buffer overflows or, at the latest, when it is flushed after the walk, which happens whether or not
the walk succeeds. So on a device without room the failure to flush is what is reported as soon as
anything has been drawn, and the walk itself is cut short only by a drawing larger than the buffer.
-/

namespace Lindenmayer

/-! ## Standard output -/

/-- The state of the standard output. -/
inductive Console where
  /-- It takes everything. -/
  | ready
  /-- It has no room. -/
  | full
deriving DecidableEq, Repr

namespace Console

/-- The number of bytes the buffer holds. -/
def bufferSize : Nat := 8192

/-- The device that a walk writes to. -/
def device : Console → Device
  | .ready => .unbounded
  | .full => .bounded bufferSize .full

/-- What happens when a device that was written to is flushed. -/
def flush (c : Console) (d : Device) : Option DeviceError :=
  match c with
  | .ready => none
  | .full => if d.taken.isEmpty then none else some .full

/-- The bytes that reach the output. -/
def delivered (c : Console) (d : Device) : Array UInt8 :=
  match c with
  | .ready => d.taken
  | .full => #[]

end Console

/-! ## Failures -/

/-- Why a command failed, by its stage. -/
inductive Failure where
  /-- The grammar could not be read. -/
  | reading (error : Error)
  /-- The grammar could not be expanded. -/
  | expanding (path : String) (error : Error)
  /-- No turtle can walk. -/
  | preparing (error : Error)
  /-- The walk ended early. -/
  | walking (error : Error)
  /-- The drawing could not be delivered. -/
  | flushing (cause : DeviceError)
deriving DecidableEq, Repr

namespace Failure

/-- What is said about a failure first. -/
def message : Failure → String
  | .reading error | .preparing error => error.message
  | .expanding path _ => "cannot expand " ++ path
  | .walking _ => "turtle walk aborted"
  | .flushing _ => "cannot flush segments"

/-- The causes of a failure, each the cause of the one before. -/
def causes : Failure → List String
  | .reading error | .preparing error => error.cause?.toList
  | .expanding _ error | .walking error => error.message :: error.cause?.toList
  | .flushing cause => [cause.message]

/-- The report of a failure: its message, and its causes behind a heading, numbered from zero if
there are several. -/
def text (f : Failure) : String :=
  let line (number : String) (cause : String) : String := "\n    " ++ number ++ cause
  let list : String :=
    match f.causes with
    | [] => ""
    | [cause] => "\n\nCaused by:" ++ line "" cause
    | causes =>
      (causes.zipIdx.map fun c ↦ line (String.ofList (Text.natural c.2) ++ ": ") c.1).foldl (· ++ ·)
        "\n\nCaused by:"
  "Error: " ++ f.message ++ list

end Failure

/-! ## Runs -/

/-- What a command leaves behind, before its report is written. -/
structure Run where
  /-- The events, in order. -/
  log : List Event
  /-- The bytes that reached the output. -/
  output : Array UInt8
  /-- Why it failed, if it did. -/
  failure : Option Failure

/-- A run that draws nothing. -/
def Run.fail (log : List Event) (failure : Failure) : Run :=
  ⟨log, #[], some failure⟩

/-- Draws a word. -/
def Turtle.draw (t : Turtle) (layout : Layout) (console : Console) (word : Word) : Run :=
  let walk := t.walk (Sink.writing layout) console.device word
  let output := console.delivered walk.received
  match console.flush walk.received, walk.result with
  | some cause, _ => ⟨walk.log, output, some (.flushing cause)⟩
  | none, .error e => ⟨walk.log, output, some (.walking e)⟩
  | none, .ok r =>
    ⟨walk.log ++ [.finished r.segments r.maxDepth r.lower r.upper], output, none⟩

/-- Draws a generation of a grammar that was read from the requested file. -/
def Request.drawGrammar (r : Request) (console : Console) (g : Grammar) : Run :=
  let loaded := Event.loaded r.path g.directions g.rules.size
  let expansion := g.expand r.generation
  match expansion.value with
  | .error e => .fail (loaded :: expansion.log) (.expanding r.path e)
  | .ok word =>
    let log := loaded :: expansion.log ++ [.expanded r.generation (Text.utf8Length word)]
    match Turtle.make g.directions r.step with
    | .error e => .fail log (.preparing e)
    | .ok t =>
      let run := t.draw r.layout console word
      { run with log := log ++ .walking g.directions r.step :: run.log }

/-- Carries out a request, with `read` to read files. -/
def Request.run (r : Request) (read : String → Except FileError ByteArray) (console : Console) :
    Run :=
  let grammar := Grammar.load read r.path
  match grammar.value with
  | .error e => .fail grammar.log (.reading e)
  | .ok g =>
    let run := r.drawGrammar console g
    { run with log := grammar.log ++ run.log }

/-! ## Outcomes -/

/-- What can be seen of a command from outside. -/
structure Outcome where
  /-- Zero for success, one for a failure, two for arguments that are no command. -/
  code : UInt8
  /-- The bytes on the standard output. -/
  output : Array UInt8
  /-- The report. -/
  report : String

/-- The outcome of a run, with the events that a filter shows. -/
def Run.outcome (run : Run) (filter : EventFilter) : Outcome where
  code := if run.failure.isSome then 1 else 0
  output := run.output
  report :=
    let events := (run.log.filter filter.shows).map Event.line
    let lines := events ++ (run.failure.map Failure.text).toList
    lines.foldl (fun report line ↦ report ++ line ++ "\n") ""

/-- The outcome of a question for help. Whether the answer was delivered makes no difference. -/
def Console.answer (c : Console) : Outcome where
  code := 0
  output := c.delivered (c.device.write (Text.utf8 help.toList)).1
  report := ""

/-- Carries out a command. -/
def execute (args : List String) (setting : Option String)
    (read : String → Except FileError ByteArray) (console : Console) : Outcome :=
  match Request.ofArguments args with
  | .error .help => console.answer
  | .error .refused => ⟨2, #[], usage ++ "\n"⟩
  | .ok r => (r.run read console).outcome (EventFilter.ofSetting setting)

end Lindenmayer
