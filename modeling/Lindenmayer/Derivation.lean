import Lindenmayer.Error
import Lindenmayer.Event
import Lindenmayer.Rules
import Lindenmayer.Text.Utf8

/-!
# Derivations

One pass over a word replaces all its symbols at once: each symbol with a rule by its word, each
other one by itself. Generations are counted from one, and the first is the word one starts from, so
generation `n + 1` is reached in `n` passes. Every pass is recorded with the length of the word it
gives, in bytes.
-/

namespace Lindenmayer

namespace Rules

/-- What a pass puts in the place of a symbol. -/
def image (r : Rules) (c : Char) : Word :=
  (r.find? c).getD [c]

/-- The word after one pass. -/
def replace (r : Rules) (w : Word) : Word :=
  w.flatMap r.image

/-- The word after `passes` passes from a generation, and their record. -/
def derive (r : Rules) : (passes generation : Nat) → Word → Logged Word
  | 0, _, w => ⟨w, []⟩
  | passes + 1, generation, w =>
    let next := r.replace w
    let last := r.derive passes (generation + 1) next
    ⟨last.value, .derived (generation + 1) (Text.utf8Length next) :: last.log⟩

/-- The given generation of a word, if it is not before the first. -/
def expand (r : Rules) (start : Word) (generation : Int) : Logged (Except Error Word) :=
  if generation < 1 then ⟨.error (.generationCount generation), []⟩
  else
    let last := r.derive (generation - 1).toNat 1 start
    ⟨.ok last.value, last.log⟩

end Rules

end Lindenmayer
