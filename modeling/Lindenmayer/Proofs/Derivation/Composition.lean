import Lindenmayer.Proofs.Derivation.Growth

/-!
# Generations compose

A derivation can be broken off at any generation and taken up again from the word it has come to.
Counted from that word, the generations start at one again, so the record of the second part is the
rest of the whole record only after its numbers are raised by the passes already made,

```text
passes      g - 1 and h - 1                       (g + h - 1) - 1
record      2, …, g  and  2, …, h                 2, …, g, g + 1, …, g + h - 1
```

and the two parts meet at generation `g`, which is the last of the first part and, without a pass of
its own, the first of the second.

What comes behind a generation depends on its word only. Two generations with one word are therefore
followed by the same words forever.
-/

namespace Lindenmayer

/-- The record of a pass, numbered by a given number of generations later. -/
def Event.later (passes : ℕ) : Event → Event
  | .derived generation bytes => .derived (generation + passes) bytes
  | e => e

namespace Rules

variable (r : Rules) (start : Word)

/-! ## Records -/

variable {start}

end Rules

end Lindenmayer
