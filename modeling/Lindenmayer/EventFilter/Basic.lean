import Lindenmayer.Event

/-!
# Which events are shown

A filter is a list of directives. Each is for some events and sets the greatest detail in which they
are shown; of those that are for an event the most specific one decides, and an event that no
directive is for is not shown.

## What is specific

A longer place is more specific than a shorter one, and after that a directive that asks for a field
is more specific than one that does not. Between two fields that an event has, the name that comes
later in order decides. Of two directives with the same place and the same field the last counts.
-/

namespace Lindenmayer

/-! ## Directives -/

/-- A field that a directive asks for. -/
structure FieldTest where
  /-- Its name. -/
  name : String
  /-- Its value, if that is asked for too. -/
  value : Option String
deriving DecidableEq, Repr

/-- One setting of a filter. -/
structure Directive where
  /-- How the places begin that it is for; empty for all places. -/
  target : String
  /-- The span whose events it is for, if it is for those of a span only. -/
  span : Option String
  /-- The field that an event must have, if any. -/
  field : Option FieldTest
  /-- The rank of the finest level that is shown; zero for none. -/
  detail : Nat
deriving DecidableEq, Repr

/-- Whether an event has what a test asks for. Values are compared on spans only, so no event has a
wanted value. -/
def FieldTest.holds (t : FieldTest) (e : Event) : Bool :=
  t.value.isNone && e.fieldNames.contains t.name

namespace Directive

/-- Whether a directive is for an event. No event of a drawing is inside of a span. -/
def covers (d : Directive) (e : Event) : Bool :=
  d.span.isNone && d.target.toList.isPrefixOf e.target.toList && d.field.all fun t ↦ t.holds e

/-- Whether a later directive for an event takes precedence over an earlier one. -/
def overrules (later earlier : Directive) : Bool :=
  if later.target.length = earlier.target.length then
    match earlier.field, later.field with
    | none, _ => true
    | some _, none => false
    | some t, some u => !decide (u.name < t.name)
  else decide (earlier.target.length < later.target.length)

end Directive

/-! ## Filters -/

/-- The directives of a filter, in order. -/
abbrev EventFilter := List Directive

namespace EventFilter

/-- The filter that shows events of all places up to a level. -/
def upTo (l : Level) : EventFilter :=
  [⟨"", none, none, l.rank⟩]

/-- The directive that decides about an event. -/
def deciding? (f : EventFilter) (e : Event) : Option Directive :=
  (f.filter fun d ↦ d.covers e).foldl
    (fun best d ↦ if best.all d.overrules then some d else best) none

/-- Whether an event is shown. -/
def shows (f : EventFilter) (e : Event) : Bool :=
  (f.deciding? e).any fun d ↦ e.level.rank ≤ d.detail

end EventFilter

end Lindenmayer
