import Lindenmayer.Numeral.Decimal

/-!
# Reading decimal numerals

A numeral is an optional sign and then either the name of an infinity or of what is not a number, in
any case, or digits with at most one point, at least one digit in all, and an optional exponent. It
is read as the nearest single-precision number.
-/

namespace Lindenmayer.Numeral

open Text (readDigits? readInteger?)

/-! ## Nearest numbers -/

/-- The bits of the single-precision magnitude nearest to a decimal. A decimal at or above `10 ^ 39`
is beyond the greatest number and one below `10 ^ -46` nearer to zero than to the least one, so no
power of ten that is computed is large. -/
def Decimal.nearestBits (d : Decimal) : Nat :=
  if d.coefficient = 0 || d.order < -46 then 0
  else if 39 ≤ d.order then single.infinity
  else single.nearest (d.coefficient * powerOfTen d.exponent.toNat) (powerOfTen (-d.exponent).toNat)

/-! ## Numerals -/

/-- The exponent part of a numeral: nothing, or a mark and an integer. -/
def readExponent? : List Char → Option Int
  | [] => some 0
  | c :: cs => if c = 'e' || c = 'E' then readInteger? cs else none

/-- Digits, with at most one point among or around them, and an exponent part. -/
def readDecimal? (cs : List Char) : Option Decimal :=
  let ahead := cs.takeWhile Char.isDigit
  let rest := cs.dropWhile Char.isDigit
  let (behind, rest) :=
    match rest with
    | '.' :: rest => (rest.takeWhile Char.isDigit, rest.dropWhile Char.isDigit)
    | _ => ([], rest)
  match readDigits? (ahead ++ behind), readExponent? rest with
  | some coefficient, some exponent => some ⟨coefficient, exponent - behind.length⟩
  | _, _ => none

/-- A numeral behind its sign. -/
def readMagnitude? (negative : Bool) (cs : List Char) : Option Float32 :=
  let name := cs.map Char.toLower
  if name = "nan".toList then some (Value.toFloat32 .nan)
  else if name = "inf".toList || name = "infinity".toList then
    some (Value.toFloat32 (.infinite negative))
  else (readDecimal? cs).map fun d ↦ signed negative d.nearestBits

/-- Reads a numeral as a single-precision number. -/
def readFloat32? : List Char → Option Float32
  | '-' :: cs => readMagnitude? true cs
  | '+' :: cs => readMagnitude? false cs
  | cs => readMagnitude? false cs

end Lindenmayer.Numeral
