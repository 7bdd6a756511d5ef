import Lindenmayer.Numeral.Style
import Lindenmayer.Point
import Lindenmayer.Text.Integer

/-!
# Writing JSON values

Values are written without blanks. Strings keep every character they can: only the quote, the
backslash and the control characters below the space are escaped, by a letter where there is one.
-/

namespace Lindenmayer.Json

open Lindenmayer.Numeral (Style Value)

/-- Numbers of JSON texts: the shortest digits, a half going to the even digit, an exponent below
1e-6 and from 1e13, a zero behind the point of whole numbers, and null for what is no number. -/
def numbers : Style where
  decimal m := m.shortest .even
  least := some (-6)
  greatest := some 12
  whole := ".0"
  plus := true
  width := 1
  nan := "null"
  infinity := "null"
  negativeInfinity := "null"

/-- A single-precision number. -/
def real (x : Float32) : List Char :=
  numbers.write (Value.ofFloat32 x)

/-- A natural number. -/
def natural (n : Nat) : List Char :=
  Text.natural n

/-- The four hexadecimal digits of a code unit. -/
def fourDigits (n : Nat) : List Char :=
  let ds := Nat.toDigits 16 n
  List.replicate (4 - ds.length) '0' ++ ds

/-- One character of a string. -/
def stringChar (c : Char) : List Char :=
  if c = '"' then ['\\', '"']
  else if c = '\\' then ['\\', '\\']
  else if c = '\x08' then ['\\', 'b']
  else if c = '\x0c' then ['\\', 'f']
  else if c = '\n' then ['\\', 'n']
  else if c = '\r' then ['\\', 'r']
  else if c = '\t' then ['\\', 't']
  else if c.toNat < 0x20 then '\\' :: 'u' :: fourDigits c.toNat
  else [c]

/-- A string. -/
def string (cs : List Char) : List Char :=
  '"' :: cs.flatMap stringChar ++ ['"']

/-- An array of written values. -/
def array (values : List (List Char)) : List Char :=
  '[' :: [','].intercalate values ++ [']']

/-- A member of an object, with its value written. -/
def pair (name value : List Char) : List Char :=
  string name ++ ':' :: value

/-- An object of named, written values. -/
def object (members : List (List Char × List Char)) : List Char :=
  '\x7b' :: [','].intercalate (members.map fun m ↦ pair m.1 m.2) ++ ['\x7d']

/-- A point, as the array of its coordinates. -/
def point (p : Point) : List Char :=
  array [real p.x, real p.y]

end Lindenmayer.Json
