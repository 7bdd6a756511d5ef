import Lindenmayer.Grammar.Basic
import Lindenmayer.Json.Reader
import Lindenmayer.Json.Writer

/-!
# The JSON form of a grammar

A grammar is a record; its rule map is an object whose member names are the symbols. The order of
those members means nothing, and of several with one name the last counts. The form is only a form:
a grammar without directions can be written and read too.
-/

namespace Lindenmayer

open Json (Reader)
open Json.Reader (Slot natural record text)

/-! ## Rule maps -/

namespace Rules

/-- Reads the rule of the symbol with the given name. -/
def ruleFromJson : List Char → Rules → Reader Rules
  | [c], r => do
    Json.Reader.colon
    return r.insert c (← text)
  | _, _ => throw .mistyped

/-- Reads a rule map. -/
def fromJson : Reader Rules :=
  Json.Reader.object ruleFromJson empty

/-- Writes a list of rules as a rule map. -/
def entriesToJson (entries : List (Char × Word)) : List Char :=
  Json.object (entries.map fun p ↦ ([p.1], Json.string p.2))

end Rules

/-! ## Grammars -/

namespace Grammar

/-- The fields of a grammar as far as they are read. -/
structure Parts where
  /-- The number of directions. -/
  directions : Option UInt64 := none
  /-- The rule map. -/
  rules : Option Rules := none
  /-- The first word. -/
  start : Option Word := none

/-- The members, in the order of the fields. -/
def slots : List (Slot Parts) :=
  [⟨"direction_count", fun s ↦ s.directions.isSome, fun s ↦ do
      return { s with directions := ← natural }⟩,
    ⟨"rules", fun s ↦ s.rules.isSome, fun s ↦ do return { s with rules := ← Rules.fromJson }⟩,
    ⟨"axiom", fun s ↦ s.start.isSome, fun s ↦ do return { s with start := ← text }⟩]

/-- Reads a grammar. -/
def fromJson : Reader Grammar :=
  record slots {} fun s ↦ return ⟨← s.directions, ← s.rules, ← s.start⟩

/-- Writes a grammar, with its rules in the given order. -/
def toJsonWith (g : Grammar) (entries : List (Char × Word)) : List Char :=
  Json.object
    [("direction_count".toList, Json.natural g.directions.toNat),
      ("rules".toList, Rules.entriesToJson entries), ("axiom".toList, Json.string g.start)]

/-- Writes a grammar, with its rules by increasing symbol. -/
def toJson (g : Grammar) : List Char :=
  g.toJsonWith g.rules.entries

/-- Reads a grammar from a JSON text. -/
def ofJson (json : List Char) : Except Json.Fault Grammar :=
  Reader.run fromJson json

end Grammar

end Lindenmayer
