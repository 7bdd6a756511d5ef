import Lindenmayer.Pose

/-!
# What symbols mean to a turtle

A word is drawn by reading each of its symbols as an operation. A lexicon is that reading, for all
symbols: those without a meaning of their own are passed over.
-/

namespace Lindenmayer

/-- An operation of a turtle. -/
inductive Op where
  /-- One step forward with the pen down. -/
  | draw
  /-- One step forward with the pen up. -/
  | move
  /-- A turn on the spot. -/
  | turn (t : Turn)
  /-- Remembers the pose at the start of a branch. -/
  | push
  /-- Returns to the pose at the start of the current branch and leaves the branch. -/
  | pop
  /-- Does nothing. -/
  | ignore
deriving DecidableEq, Repr

/-- The operation each symbol stands for. -/
abbrev Lexicon := Char → Op

namespace Lexicon

/-- No symbol means anything. -/
def silent : Lexicon := fun _ ↦ .ignore

/-- Gives a symbol a new meaning. -/
def assign (l : Lexicon) (symbol : Char) (op : Op) : Lexicon :=
  fun c ↦ if c = symbol then op else l c

/-- The meanings given by a list of pairs, the later ones first, and no others. -/
def ofList (pairs : List (Char × Op)) : Lexicon :=
  pairs.foldl (fun l p ↦ l.assign p.1 p.2) silent

/-- Gives the conventional symbols their meanings and leaves the others alone. -/
def withConventions (l : Lexicon) : Lexicon
  | 'F' => .draw
  | 'f' => .move
  | '+' => .turn .right
  | '-' => .turn .left
  | '|' => .turn .around
  | '[' => .push
  | ']' => .pop
  | c => l c

/-- The conventional meanings. -/
def conventional : Lexicon := silent.withConventions

end Lexicon

end Lindenmayer
