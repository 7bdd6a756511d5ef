import Lindenmayer.Text.Property

/-!
# Blanks and tokens

A text is read as a stream of tokens: the maximal runs of characters without the Unicode property
`White_Space`. The property is a fixed list of 25 characters. It is not the class of characters
that look empty: the zero-width space, the byte order mark and the four information separators are
not in it, so they stand inside tokens.
-/

namespace Lindenmayer.Text

/-! ## The property -/

/-- The code points with the property `White_Space`, as closed ranges in increasing order. -/
def blankRanges : List (Nat × Nat) :=
  [(0x09, 0x0D), (0x20, 0x20), (0x85, 0x85), (0xA0, 0xA0), (0x1680, 0x1680), (0x2000, 0x200A),
    (0x2028, 0x2029), (0x202F, 0x202F), (0x205F, 0x205F), (0x3000, 0x3000)]

/-- Whether a character separates tokens. -/
def isBlank (c : Char) : Bool :=
  inRanges blankRanges c

/-- A text without the blanks at its ends. -/
def trim (cs : List Char) : List Char :=
  ((cs.dropWhile isBlank).reverse.dropWhile isBlank).reverse

/-! ## Tokens -/

/-- The tokens of a suffix of a text, and whether the suffix starts inside the first of them. -/
structure Split where
  /-- The next character to the left joins the first token, if it is not a blank itself. -/
  joins : Bool
  /-- The tokens so far, in text order. -/
  tokens : List (List Char)

/-- Puts one more character in front of a suffix. -/
def Split.cons (c : Char) : Split → Split
  | ⟨joins, ts⟩ =>
    if isBlank c then ⟨false, ts⟩
    else match joins, ts with
      | true, t :: ts => ⟨true, (c :: t) :: ts⟩
      | _, ts => ⟨true, [c] :: ts⟩

/-- The tokens of a text and whether its first character belongs to one. -/
def split (cs : List Char) : Split :=
  cs.foldr Split.cons ⟨false, []⟩

/-- The maximal runs of characters that are not blanks, in order. -/
def tokens (cs : List Char) : List (List Char) :=
  (split cs).tokens

end Lindenmayer.Text
