import Lindenmayer.Json.Token
import Lindenmayer.Numeral.Binary

/-!
# Values of JSON numbers

A number without a point and without an exponent is an integer if it fits in 64 bits, with or
without a sign. Every other number is approximated in double precision, from at most as many of its
digits as fit in a 64-bit word, by one multiplication or division with a power of ten. A number
beyond the range of double precision is a fault.

The last digit of such an approximation can differ from that of the nearest double-precision number.
It seldom shows, since the readers want single precision.
-/

namespace Lindenmayer.Json

open Numeral (narrow)

/-- The value of a number. -/
inductive Quantity where
  /-- A natural number of at most 64 bits, written without a sign. -/
  | natural (n : UInt64)
  /-- The negative of a natural number of at most `2 ^ 63`. -/
  | negative (n : UInt64)
  /-- An approximation of any other number. -/
  | real (x : Float)

/-! ## Digits -/

/-- The longest start of a list of digits with which the word `n` can be continued without
exceeding 64 bits: the word, and the digits left over. -/
def gather (n : Nat) : List Char → Nat × List Char
  | [] => (n, [])
  | d :: ds =>
    let next := 10 * n + (d.toNat - '0'.toNat)
    if next < UInt64.size then gather next ds else (n, d :: ds)

/-! ## Scaling -/

/-- A power of ten in double precision. -/
def powerOfTen (n : Nat) : Float :=
  Float.ofScientific 1 false n

/-- A number scaled by a power of ten, if that is in range. Two divisions reach every power below
`10 ^ -308` that leaves more than zero of a 64-bit word. -/
def scale (x : Float) (exponent : Int) : Except Fault Float :=
  if x == 0 then .ok 0
  else if 308 < exponent then .error .malformed
  else if 0 ≤ exponent then
    let y := x * powerOfTen exponent.toNat
    if y.isInf then .error .malformed else .ok y
  else if -308 ≤ exponent then .ok (x / powerOfTen (-exponent).toNat)
  else if -616 ≤ exponent then .ok (x / powerOfTen 308 / powerOfTen (-exponent - 308).toNat)
  else .ok 0

namespace NumberToken

/-- The approximation of a number, without its sign. -/
def approximate (n : NumberToken) : Except Fault Float :=
  let (ahead, dropped) := gather 0 n.whole
  let (digits, unused) := gather ahead n.fraction
  let point : Int := (dropped.length : Int) - (n.fraction.length - unused.length : Nat)
  let exponent := n.exponent.getD 0
  if Int32.maxValue.toInt < exponent.natAbs && digits ≠ 0 then
    if exponent < 0 then .ok 0 else .error .malformed
  else scale (UInt64.ofNat digits).toFloat (point + exponent)

/-- The value of a number, if it is in range. -/
def quantity (n : NumberToken) : Except Fault Quantity :=
  let magnitude := Nat.ofDigitChars 10 n.whole 0
  if n.fraction.isEmpty && n.exponent.isNone && !n.negative && magnitude < UInt64.size then
    .ok (.natural (UInt64.ofNat magnitude))
  else if n.fraction.isEmpty && n.exponent.isNone && n.negative && magnitude ≠ 0 &&
      2 * magnitude ≤ UInt64.size then
    .ok (.negative (UInt64.ofNat magnitude))
  else (n.approximate).map fun x ↦ .real (if n.negative then -x else x)

end NumberToken

/-- The single-precision number nearest to a quantity. -/
def Quantity.toFloat32 : Quantity → Float32
  | .natural n => n.toFloat32
  | .negative n => -n.toFloat32
  | .real x => narrow x

end Lindenmayer.Json
