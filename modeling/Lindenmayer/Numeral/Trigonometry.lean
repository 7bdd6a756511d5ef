import Lindenmayer.Numeral.Binary

/-!
# Cosine and sine of an angle of at most one turn

Drawings are compared bit for bit, so the two functions are fixed as arithmetic and not left to the
platform. An angle is brought within an eighth of a turn of the nearest multiple of a quarter turn,
one of two polynomials is evaluated in double precision, and the result is rounded once. The
polynomials are so close to cosine and sine there that the rounded result is almost always the
nearest number.

The result is clamped to the interval from -1 to 1. This never changes a value of the polynomials
at an angle of at most a turn; it makes the bound hold without an estimate of their error.
-/

namespace Lindenmayer.Numeral

/-! ## Double precision -/

/-- The double-precision number `2 ^ exponent`, for exponents from -1022 to 1023. -/
def powerOfTwo (exponent : Int) : Float :=
  Float.ofBits (UInt64.ofNat ((exponent + 1023).toNat <<< double.fractionBits))

/-- A finite single-precision number in double precision. -/
def widen (x : Float32) : Float :=
  match Value.ofFloat32 x with
  | .finite negative m =>
    let y := (UInt64.ofNat m.significand).toFloat * powerOfTwo m.exponent
    if negative then -y else y
  | _ => 0

/-! ## Polynomials within an eighth of a turn -/

/-- The even polynomial, as a function of the square of the angle. -/
def cosinePolynomial (square : Float) : Float :=
  let fourth := square * square
  let high := -0.001388676379437604 + square * 2.4390450703564542e-05
  let low := 1 + square * -0.49999999725108224
  let sixth := fourth * square
  let near := low + fourth * 0.041666623324344516
  near + sixth * high

/-- The odd polynomial, as a function of the angle and its square. -/
def sinePolynomial (angle square : Float) : Float :=
  let cube := angle * square
  let high := 0.008332178146138854 + square * -0.00019517298981385725
  let fifth := cube * square
  let near := angle + cube * -0.16666654943701084
  near + fifth * high

/-! ## Reduction -/

/-- An angle as a number of quarter turns and a remainder. -/
structure Reduced where
  /-- The number of quarter turns nearest to the angle. -/
  quarters : Nat
  /-- What the angle has beyond them. -/
  rest : Float

/-- The nearest multiple of a quarter turn, found in units of the `2 ^ 24`th part of one, and the
rest. -/
def reduce (angle : Float) : Reduced :=
  let quarters := ((angle * 10680707.430881744).toUInt64.toNat + 1 <<< 23) >>> 24
  ⟨quarters, angle - (UInt64.ofNat quarters).toFloat * 1.5707963267948966⟩

/-- The nearest number from -1 to 1. -/
def clamp (x : Float32) : Float32 :=
  if x ≤ 1 then if -1 ≤ x then x else -1 else 1

/-- The cosine of an angle from zero to a turn. -/
def cosine (angle : Float32) : Float32 :=
  let r := reduce (widen angle)
  let square := r.rest * r.rest
  clamp <| narrow <|
    match r.quarters % 4 with
    | 0 => cosinePolynomial square
    | 1 => -sinePolynomial r.rest square
    | 2 => -cosinePolynomial square
    | _ => sinePolynomial r.rest square

/-- The sine of an angle from zero to a turn. -/
def sine (angle : Float32) : Float32 :=
  let r := reduce (widen angle)
  let square := r.rest * r.rest
  clamp <| narrow <|
    match r.quarters % 4 with
    | 0 => sinePolynomial r.rest square
    | 1 => cosinePolynomial square
    | 2 => -sinePolynomial r.rest square
    | _ => -cosinePolynomial square

end Lindenmayer.Numeral
