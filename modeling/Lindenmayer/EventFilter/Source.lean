import Lindenmayer.EventFilter.Basic
import Lindenmayer.Numeral.Reading
import Lindenmayer.Text.Alphanumeric
import Lindenmayer.Text.Blank
import Lindenmayer.Text.Pattern
import Lindenmayer.Text.Utf8

/-!
# Filter settings

The setting of a filter is a list of directives between commas. A directive is a level or a place,
by itself or with marks behind it, and everything but one of the first two can be left out:

```text
LEVEL
PLACE[SPAN{FIELD=VALUE}]=LEVEL
```

A level is a name in any case or a number from 0 to 5; without one, everything is shown. A place can
hold any characters, so a misspelt level is a place from which nothing comes.

## Blanks

Blanks at the ends of a directive are not counted in the positions of its marks, but names are cut
at these positions from the directive with its blanks. So a blank at the front moves all names, and
a blank at the end belongs to the last one. A setting with a position that is no place to cut cannot
be read.
-/

namespace Lindenmayer

open Text (readDigits? cut dropBytes isAlphanumeric isPattern trim)

/-! ## Levels and fields -/

/-- The rank that a level's name or number stands for. -/
def Directive.detail? (name : List Char) : Option Nat :=
  let lower := String.ofList (name.map Char.toLower)
  let digits :=
    match name with
    | '+' :: ds => ds
    | ds => ds
  (["off", "error", "warn", "info", "debug", "trace"].findIdx? (· == lower)).or
    ((readDigits? digits).filter (· ≤ Level.trace.rank))

/-- Reads the test of a field: a name, or a name and a value, which is a number or a regular
expression. -/
def FieldTest.ofText? (text : List Char) : Option FieldTest :=
  let name := String.ofList (text.takeWhile (· ≠ '='))
  match text.dropWhile (· ≠ '=') with
  | [] => if text.isEmpty then none else some ⟨name, none⟩
  | _ :: rest =>
    let value := rest.takeWhile (· ≠ '=')
    if (Numeral.readFloat32? value).isSome || isPattern value then
      some ⟨name, some (String.ofList value)⟩
    else none

/-! ## Directives -/

namespace Directive

/-- Where a directive stands between two of its characters. -/
inductive Place where
  /-- At its start. -/
  | start
  /-- In the level or place that it begins with. -/
  | name
  /-- In the name of a span that begins at a position. -/
  | span (opened : Nat)
  /-- In the test of a field that begins at a position. -/
  | field (opened : Nat)
  /-- Behind the test of a field. -/
  | tested
  /-- Behind the bracket that closes a span. -/
  | closed
  /-- In a level that begins at a position. -/
  | level (opened : Nat)
deriving DecidableEq, Repr

/-- A directive as far as it is read. -/
structure Reading where
  /-- Where it stands. -/
  place : Place
  /-- What it says up to there. -/
  directive : Directive

/-- Whether a directive can begin with a character, other than the bracket of a span. -/
def begins (c : Char) : Bool :=
  isAlphanumeric c || c = '-' || c = ':' || c = '_'

/-- Passes the character at a position of a directive. -/
def Reading.pass (text : List Char) (position : Nat) (r : Reading) (c : Char) : Option Reading :=
  match r.place with
  | .start =>
    if c = '[' then some { r with place := .span (position + 1) }
    else if begins c then some { r with place := .name }
    else none
  | .name =>
    if c = '=' || c = '[' then do
      let target := String.ofList (← cut 0 position text)
      let place := if c = '=' then .level (position + 1) else .span (position + 1)
      return ⟨place, { r.directive with target }⟩
    else some r
  | .span opened =>
    if c = ']' then do
      let span := String.ofList (← cut opened position text)
      return ⟨.closed, { r.directive with span := some span }⟩
    else if c = '\x7b' then do
      let span := String.ofList (← cut opened position text)
      return ⟨.field (position + 1),
        { r.directive with span := if span.isEmpty then none else some span }⟩
    else some r
  | .field opened =>
    if c = '\x7d' then do
      let test ← FieldTest.ofText? (← cut opened position text)
      return ⟨.tested, { r.directive with field := some test }⟩
    else some r
  | .tested => if c = ']' then some { r with place := .closed } else none
  | .closed => if c = '=' then some { r with place := .level (position + 1) } else none
  | .level _ => some r

/-- The directive that ends here, if one can. -/
def Reading.finish (text : List Char) (r : Reading) : Option Directive :=
  match r.place with
  | .name =>
    match detail? text with
    | some detail => some { r.directive with detail }
    | none => some { r.directive with target := String.ofList text }
  | .level opened =>
    match dropBytes opened text with
    | none => none
    | some [] => some r.directive
    | some level => (detail? level).map fun detail ↦ { r.directive with detail }
  | .closed => some r.directive
  | .start | .span _ | .field _ | .tested => none

/-- Reads the characters of a directive from a position on. -/
def Reading.scan (text : List Char) : Nat → Reading → List Char → Option Directive
  | _, r, [] => r.finish text
  | position, r, c :: cs =>
    (r.pass text position c).bind fun r ↦ r.scan text (position + c.utf8Size) cs

/-- Reads a directive. -/
def ofText? (text : List Char) : Option Directive :=
  Reading.scan text 0 ⟨.start, ⟨"", none, none, Level.trace.rank⟩⟩ (trim text)

end Directive

/-! ## Settings -/

namespace EventFilter

/-- Reads a filter. One without any directive shows errors only. -/
def ofString? (text : String) : Option EventFilter :=
  match (text.splitOn ",").filter (· ≠ "") with
  | [] => some (upTo .error)
  | parts => parts.mapM fun part ↦ Directive.ofText? part.toList

/-- The filter of a setting: without one, or with one that cannot be read, it shows what was passed
over and worse. -/
def ofSetting (setting : Option String) : EventFilter :=
  (setting.bind ofString?).getD (upTo .warn)

end EventFilter

end Lindenmayer
