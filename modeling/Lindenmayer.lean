import Lindenmayer.CommandLine
import Lindenmayer.Compass
import Lindenmayer.Derivation
import Lindenmayer.Device
import Lindenmayer.Error
import Lindenmayer.Event
import Lindenmayer.EventFilter.Basic
import Lindenmayer.EventFilter.Source
import Lindenmayer.FileTree
import Lindenmayer.Grammar.Basic
import Lindenmayer.Grammar.Source
import Lindenmayer.Json.Drawing
import Lindenmayer.Json.Grammar
import Lindenmayer.Json.Number
import Lindenmayer.Json.Reader
import Lindenmayer.Json.Token
import Lindenmayer.Json.Writer
import Lindenmayer.Layout
import Lindenmayer.Lexicon
import Lindenmayer.Numeral.Binary
import Lindenmayer.Numeral.Decimal
import Lindenmayer.Numeral.Reading
import Lindenmayer.Numeral.Style
import Lindenmayer.Numeral.Trigonometry
import Lindenmayer.Point
import Lindenmayer.Pose
import Lindenmayer.Program
import Lindenmayer.Rules
import Lindenmayer.Segment
import Lindenmayer.Text.Alphanumeric
import Lindenmayer.Text.Blank
import Lindenmayer.Text.Integer
import Lindenmayer.Text.NonGraphic
import Lindenmayer.Text.Pattern
import Lindenmayer.Text.Property
import Lindenmayer.Text.Quoted
import Lindenmayer.Text.Utf8
import Lindenmayer.Walk
import Lindenmayer.Main
import Lindenmayer.Proofs.Branch.Expansion
import Lindenmayer.Proofs.Branch.Height
import Lindenmayer.Proofs.Branch.Prune
import Lindenmayer.Proofs.Branch.Sibling
import Lindenmayer.Proofs.Derivation.Composition
import Lindenmayer.Proofs.Derivation.Descent
import Lindenmayer.Proofs.Derivation.Growth
import Lindenmayer.Proofs.Derivation.Length
import Lindenmayer.Proofs.Derivation.Reachable
import Lindenmayer.Proofs.Json.RoundTrip
import Lindenmayer.Proofs.Json.Spelling
import Lindenmayer.Proofs.Numeral.Nearest
import Lindenmayer.Proofs.Numeral.Pointed
import Lindenmayer.Proofs.Numeral.Shortest
import Lindenmayer.Proofs.Numeral.Significant
import Lindenmayer.Proofs.Numeral.Spacing
import Lindenmayer.Proofs.Numeral.Value
import Lindenmayer.Proofs.Output.Command
import Lindenmayer.Proofs.Output.Reprint
import Lindenmayer.Proofs.Output.Script
import Lindenmayer.Proofs.Output.Table
import Lindenmayer.Proofs.Output.Truncation
import Lindenmayer.Proofs.Single.Finite
import Lindenmayer.Proofs.Source.Builder
import Lindenmayer.Proofs.Source.Numeral
import Lindenmayer.Proofs.Source.Reading
import Lindenmayer.Proofs.Source.RoundTrip
import Lindenmayer.Proofs.Turn
import Lindenmayer.Proofs.Turn.Cyclic
import Lindenmayer.Proofs.Walk.Connected
import Lindenmayer.Proofs.Walk.Course
import Lindenmayer.Proofs.Walk.Effective
import Lindenmayer.Proofs.Walk.Extent
import Lindenmayer.Proofs.Walk.Matching
import Lindenmayer.Proofs.Walk.Outcome
import Lindenmayer.Proofs.Walk.Range
import Lindenmayer.Proofs.Walk.Reached
import Lindenmayer.Proofs.Walk.Recall
import Lindenmayer.Proofs.Walk.Refusal
import Lindenmayer.Proofs.Walk.Stackless
