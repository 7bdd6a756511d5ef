import Lindenmayer.Derivation

/-!
# Grammars

A grammar is a word to start from, a rule map, and the number of directions in which its words are
drawn.
-/

namespace Lindenmayer

/-- A Lindenmayer system with the number of directions of its drawings. -/
structure Grammar where
  /-- The number of directions a turtle can face. -/
  directions : UInt64
  /-- The production rules. -/
  rules : Rules
  /-- The word of the first generation. -/
  start : Word
deriving DecidableEq

namespace Grammar

/-- A grammar without rules. It needs a direction. -/
def make (directions : UInt64) (start : Word) : Except Error Grammar :=
  if directions = 0 then .error (.directionCount 0) else .ok ⟨directions, .empty, start⟩

/-- Adds a rule, unless its symbol has one; that is recorded. -/
def withRule (g : Grammar) (c : Char) (w : Word) : Logged Grammar where
  value := { g with rules := g.rules.insertNew c w }
  log := if g.rules.contains c then [.duplicateRule c none] else []

/-- Adds rules one after another. -/
def withRules : Grammar → List (Char × Word) → Logged Grammar
  | g, [] => ⟨g, []⟩
  | g, (c, w) :: rest =>
    let first := g.withRule c w
    let last := first.value.withRules rest
    ⟨last.value, first.log ++ last.log⟩

/-- The word a symbol is replaced by, if it has a rule. -/
def rule? (g : Grammar) (c : Char) : Option Word :=
  g.rules.find? c

/-- The given generation of a grammar. -/
def expand (g : Grammar) (generation : Int) : Logged (Except Error Word) :=
  g.rules.expand g.start generation

end Grammar

end Lindenmayer
