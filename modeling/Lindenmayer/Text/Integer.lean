/-!
# Integers

The written form of a count: an optional sign, then at least one ASCII digit, with any number of
leading zeros. A numeral outside the range of signed 64-bit integers is not a count.

Numbers of characters are written in hexadecimal digits, in either case; `hexValue?` reads one of
them.
-/

namespace Lindenmayer.Text

/-- Reads a non-empty list of ASCII digits. -/
def readDigits? (cs : List Char) : Option Nat :=
  if !cs.isEmpty && cs.all Char.isDigit then some (Nat.ofDigitChars 10 cs 0) else none

/-- Reads digits behind an optional sign. -/
def readInteger? : List Char → Option Int
  | '-' :: cs => (readDigits? cs).map fun n ↦ -(n : Int)
  | '+' :: cs => (readDigits? cs).map fun n ↦ (n : Int)
  | cs => (readDigits? cs).map fun n ↦ (n : Int)

/-- Reads an integer that fits in 64 bits with a sign. -/
def readInt64? (cs : List Char) : Option Int :=
  (readInteger? cs).filter fun i ↦ Int64.minValue.toInt ≤ i && i ≤ Int64.maxValue.toInt

/-- The value of a hexadecimal digit. -/
def hexValue? (c : Char) : Option Nat :=
  if c.isDigit then some (c.toNat - '0'.toNat)
  else if 'a' ≤ c && c ≤ 'f' then some (c.toNat - 'a'.toNat + 10)
  else if 'A' ≤ c && c ≤ 'F' then some (c.toNat - 'A'.toNat + 10)
  else none

/-- The decimal numeral of a natural number. -/
def natural (n : Nat) : List Char :=
  Nat.toDigits 10 n

/-- The decimal numeral of an integer, with a minus sign when it is negative. -/
def integer (i : Int) : List Char :=
  if i < 0 then '-' :: natural i.natAbs else natural i.natAbs

end Lindenmayer.Text
