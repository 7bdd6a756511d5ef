/-!
# Binary interchange formats

A number of a binary format is decoded into a sign and a magnitude `significand · 2 ^ exponent`,
and a positive rational is encoded as the nearest number of the format. Every number this library
writes or reads is rounded by one rule, `roundDiv`: a quotient goes to the nearest integer, and what
happens at an exact half is the only choice a format has.

## Encoding without cases

Counted in units of the least positive number `2 ^ lowest` of a format, the numbers of one binade
are the multiples of a power of two with `2 ^ fractionBits` to `2 ^ (fractionBits + 1) - 1` as the
factor. Written as `steps · 2 ^ fractionBits + factor`, the bit pattern of such a number is linear
in both parts, and stays right when rounding carries the factor into the next binade or from the
subnormal numbers into the normal ones. So rounding needs no second normalization; only the
overflow to infinity is a case.
-/

namespace Lindenmayer.Numeral

/-! ## Rounding a quotient -/

/-- Where an exact half goes. -/
inductive Tie where
  /-- To the even neighbour. -/
  | even
  /-- To the greater neighbour. -/
  | up
deriving DecidableEq, Repr

/-- The integer nearest to `num / den`. -/
def roundDiv (tie : Tie) (num den : Nat) : Nat :=
  let q := num / den
  match compare (2 * (num % den)) den, tie with
  | .lt, _ => q
  | .gt, _ => q + 1
  | .eq, .even => q + q % 2
  | .eq, .up => q + 1

/-! ## Magnitudes -/

/-- A positive number `significand · 2 ^ exponent` as a format holds it. -/
structure Magnitude where
  /-- The integer significand. -/
  significand : Nat
  /-- The power of two it is scaled by. -/
  exponent : Int
  /-- Whether the next number below is half as far away as the next one above: the number is the
  least of its binade, and not of the least binade. -/
  narrowBelow : Bool
deriving DecidableEq, Repr

/-- A magnitude is `numerator / denominator`. -/
def Magnitude.numerator (m : Magnitude) : Nat :=
  m.significand <<< m.exponent.toNat

/-- A magnitude is `numerator / denominator`. -/
def Magnitude.denominator (m : Magnitude) : Nat :=
  1 <<< (-m.exponent).toNat

/-- What a bit pattern stands for. -/
inductive Value where
  /-- Not a number. -/
  | nan
  /-- An infinity, with its sign. -/
  | infinite (negative : Bool)
  /-- A zero, with its sign. -/
  | zero (negative : Bool)
  /-- A number other than zero, with its sign. -/
  | finite (negative : Bool) (magnitude : Magnitude)
deriving DecidableEq, Repr

/-! ## Formats -/

/-- The widths of the fields below the sign. -/
structure Format where
  /-- The width of the stored fraction. -/
  fractionBits : Nat
  /-- The width of the biased exponent. -/
  exponentBits : Nat

/-- The 32-bit format. -/
def single : Format := ⟨23, 8⟩

/-- The 64-bit format. -/
def double : Format := ⟨52, 11⟩

namespace Format

/-- The exponent of the least positive number. -/
def lowest (f : Format) : Int :=
  2 - (1 <<< (f.exponentBits - 1) : Nat) - f.fractionBits

/-- The biased exponent of what is no finite number. -/
def special (f : Format) : Nat :=
  1 <<< f.exponentBits - 1

/-- The bit pattern of positive infinity. -/
def infinity (f : Format) : Nat :=
  f.special <<< f.fractionBits

/-- The value of a bit pattern. -/
def decode (f : Format) (bits : Nat) : Value :=
  let fraction := bits % 1 <<< f.fractionBits
  let biased := (bits >>> f.fractionBits) % 1 <<< f.exponentBits
  let negative := (bits >>> (f.fractionBits + f.exponentBits)) % 2 = 1
  if biased = f.special then
    if fraction = 0 then .infinite negative else .nan
  else if biased = 0 then
    if fraction = 0 then .zero negative else .finite negative ⟨fraction, f.lowest, false⟩
  else
    .finite negative
      ⟨1 <<< f.fractionBits + fraction, f.lowest + (biased - 1 : Nat), fraction = 0 && 1 < biased⟩

/-- The bit pattern of the number nearest to `num / den`, ties to the even pattern. -/
def nearest (f : Format) (num den : Nat) : Nat :=
  let units := num <<< (-f.lowest).toNat
  let steps := (units / den).log2 - f.fractionBits
  min (steps <<< f.fractionBits + roundDiv .even units (den <<< steps)) f.infinity

end Format

/-! ## Single precision -/

/-- The value of a single-precision number. -/
def Value.ofFloat32 (x : Float32) : Value :=
  single.decode x.toBits.toNat

/-- The value of a double-precision number. -/
def Value.ofFloat (x : Float) : Value :=
  double.decode x.toBits.toNat

/-- The single-precision number with a given sign and magnitude bits. -/
def signed (negative : Bool) (bits : Nat) : Float32 :=
  Float32.ofBits (UInt32.ofNat (if negative then 1 <<< 31 + bits else bits))

/-- The single-precision number nearest to a value. -/
def Value.toFloat32 : Value → Float32
  | .nan => Float32.ofBits 0x7FC00000
  | .infinite negative => signed negative single.infinity
  | .zero negative => signed negative 0
  | .finite negative m => signed negative (single.nearest m.numerator m.denominator)

/-- The single-precision number nearest to a double-precision one. -/
def narrow (x : Float) : Float32 :=
  (Value.ofFloat x).toFloat32

/-- A single-precision magnitude as double precision holds it: the same number, with a significand
of 53 bits, and with closer neighbours. -/
def Magnitude.widen (m : Magnitude) : Magnitude :=
  let shift := double.fractionBits - m.significand.log2
  let significand := m.significand <<< shift
  ⟨significand, m.exponent - shift, significand = 1 <<< double.fractionBits⟩

/-- A value of single precision as double precision holds it. -/
def Value.widen : Value → Value
  | .finite negative m => .finite negative m.widen
  | v => v

end Lindenmayer.Numeral
