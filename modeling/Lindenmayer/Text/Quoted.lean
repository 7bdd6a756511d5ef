import Lindenmayer.Text.NonGraphic

/-!
# Quoted text

A token that is shown in a message stands in double quotes and can be read off without doubt: the
quote, the backslash and the usual control characters have two-character names, and every other
character that would be invisible, or would merge with its neighbour, is named by its code point.
The apostrophe stands for itself, and so do the two sound marks of the halfwidth forms, which attach
to the character before them but are drawn in a cell of their own.
-/

namespace Lindenmayer.Text

/-- A code point in lower-case hexadecimal, without leading zeros. -/
def numbered (c : Char) : List Char :=
  "\\u\x7b".toList ++ Nat.toDigits 16 c.toNat ++ ['\x7d']

/-- Whether a character is a sound mark of the halfwidth forms. -/
def isHalfwidthMark (c : Char) : Bool :=
  c = '\uff9e' || c = '\uff9f'

/-- Whether a character is to be named by its code point. -/
def isNumbered (c : Char) : Bool :=
  isNonGraphic c || isDefaultIgnorable c || isGraphemeExtend c && !isHalfwidthMark c

/-- One character as it stands between quotes. -/
def quotedChar (c : Char) : List Char :=
  if c = '\x00' then ['\\', '0']
  else if c = '\t' then ['\\', 't']
  else if c = '\n' then ['\\', 'n']
  else if c = '\r' then ['\\', 'r']
  else if c = '"' then ['\\', '"']
  else if c = '\\' then ['\\', '\\']
  else if isNumbered c then numbered c
  else [c]

/-- A text between double quotes. -/
def quoted (cs : List Char) : List Char :=
  '"' :: cs.flatMap quotedChar ++ ['"']

end Lindenmayer.Text
