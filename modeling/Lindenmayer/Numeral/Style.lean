import Lindenmayer.Numeral.Decimal

/-!
# Number styles

A format that writes numbers decides a handful of things: which digits, up to which exponents the
point is moved instead of naming the power of ten, how the exponent looks, and the names of the
values that are no numbers. A `Style` is one record of these decisions, and `Style.write` is the
only printer.
-/

namespace Lindenmayer.Numeral

open Text (natural)

/-- The decisions of a format about its numbers. -/
structure Style where
  /-- The digits of a number other than zero. -/
  decimal : Magnitude → Decimal
  /-- The least power of ten of a leading digit that is written by moving the point, if any. -/
  least : Option Int
  /-- The greatest such power, if any. -/
  greatest : Option Int
  /-- What follows the last digit of a whole number. -/
  whole : String
  /-- Whether a positive exponent has a sign. -/
  plus : Bool
  /-- The least number of digits of an exponent. -/
  width : Nat
  /-- The text for what is not a number. -/
  nan : String
  /-- The text for positive infinity. -/
  infinity : String
  /-- The text for negative infinity. -/
  negativeInfinity : String

/-- The digits of a coefficient without its trailing zeros. -/
def stripped (coefficient : Nat) : List Char :=
  ((natural coefficient).reverse.dropWhile (· == '0')).reverse

namespace Style

variable (s : Style)

/-- Whether a leading digit at the given power of ten is written by moving the point. -/
def isPositional (order : Int) : Bool :=
  s.least.all (· ≤ order) && s.greatest.all (order ≤ ·)

/-- The digits with the point where the power of ten of the leading one puts it. -/
def positional (ds : List Char) (order : Int) : List Char :=
  if order < 0 then
    '0' :: '.' :: List.replicate (-order - 1).toNat '0' ++ ds
  else
    let ahead := order.toNat + 1
    if ds.length ≤ ahead then ds ++ List.replicate (ahead - ds.length) '0' ++ s.whole.toList
    else ds.take ahead ++ '.' :: ds.drop ahead

/-- The exponent part. -/
def exponent (order : Int) : List Char :=
  let ds := natural order.natAbs
  let sign := if order < 0 then ['-'] else if s.plus then ['+'] else []
  'e' :: sign ++ List.replicate (s.width - ds.length) '0' ++ ds

/-- The leading digit, the others behind a point, and the exponent part. -/
def scientific (ds : List Char) (order : Int) : List Char :=
  ds.take 1 ++ (if ds.length ≤ 1 then [] else '.' :: ds.drop 1) ++ s.exponent order

/-- A number other than zero, without its sign. -/
def magnitude (m : Magnitude) : List Char :=
  let d := s.decimal m
  let ds := stripped d.coefficient
  if s.isPositional d.order then s.positional ds d.order else s.scientific ds d.order

/-- The written form of a value. -/
def write : Value → List Char
  | .nan => s.nan.toList
  | .infinite false => s.infinity.toList
  | .infinite true => s.negativeInfinity.toList
  | .zero false => '0' :: s.whole.toList
  | .zero true => '-' :: '0' :: s.whole.toList
  | .finite false m => s.magnitude m
  | .finite true m => '-' :: s.magnitude m

end Style

end Lindenmayer.Numeral
