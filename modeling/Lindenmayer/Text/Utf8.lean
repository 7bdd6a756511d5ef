/-!
# The bytes of a text

A word is counted in symbols where it is derived and drawn, and in bytes where it is reported or
written out. A position in a text can be a number of bytes too; it is a place to cut only if it
falls between two characters.
-/

namespace Lindenmayer.Text

/-- The UTF-8 form of a text. -/
def utf8 (cs : List Char) : List UInt8 :=
  cs.flatMap String.utf8EncodeChar

/-- The number of bytes of the UTF-8 form. -/
def utf8Length (cs : List Char) : Nat :=
  cs.foldr (fun c n ↦ c.utf8Size + n) 0

/-- What is left of a text behind its first `n` bytes. -/
def dropBytes : Nat → List Char → Option (List Char)
  | 0, cs => some cs
  | _ + 1, [] => none
  | n + 1, c :: cs => if c.utf8Size ≤ n + 1 then dropBytes (n + 1 - c.utf8Size) cs else none

/-- The first `n` bytes of a text. -/
def takeBytes : Nat → List Char → Option (List Char)
  | 0, _ => some []
  | _ + 1, [] => none
  | n + 1, c :: cs =>
    if c.utf8Size ≤ n + 1 then (takeBytes (n + 1 - c.utf8Size) cs).map (c :: ·) else none

/-- The part of a text between two positions. -/
def cut (start stop : Nat) (cs : List Char) : Option (List Char) :=
  (dropBytes start cs).bind (takeBytes (stop - start))

end Lindenmayer.Text
