/-!
# Doubles as exact numbers

A finite double is a sign and `significand * 2 ^ exponent`; `parts` reads these off its bits. In the
other direction `nearest` gives the double closest to a fraction, a half going to the neighbour with
the even significand. Everything is whole-number arithmetic, so nothing is lost on the way.
-/

namespace FigureScript.Binary64

inductive Parts where
  | notANumber
  | infinite (negative : Bool)
  /-- Plus or minus `significand * 2 ^ exponent`; a zero keeps its sign. -/
  | finite (negative : Bool) (significand : Nat) (exponent : Int)
  deriving DecidableEq, Repr

/-- The fraction field fills the low 52 bits. -/
def fractionCount : Nat := Nat.pow 2 52

/-- The exponent of the smallest positive double, and of all subnormal ones. -/
def leastExponent : Int := -1074

/-- Read sign, exponent and fraction fields; a normal number has one more bit in front of its
fraction. -/
def parts (value : Float) : Parts :=
  let bits := value.toBits.toNat
  let negative := decide (Nat.pow 2 63 ≤ bits)
  let biased : Nat := bits / fractionCount % 2048
  let fraction : Nat := bits % fractionCount
  if biased = 2047 then
    if fraction = 0 then .infinite negative else .notANumber
  else if biased = 0 then
    .finite negative fraction leastExponent
  else
    .finite negative (fractionCount + fraction) ((biased : Int) - 1075)

/-- True for every double but the infinities and the value that is not a number. -/
def isFinite (value : Float) : Bool :=
  match parts value with
  | .finite .. => true
  | _ => false

/-- A fraction rounded to a whole number, a half going to the even neighbour. -/
def roundHalfEven (numerator denominator : Nat) : Nat :=
  let quotient := numerator / denominator
  let remainder := numerator % denominator
  if 2 * remainder < denominator then quotient
  else if denominator < 2 * remainder then quotient + 1
  else quotient + quotient % 2

/-- The greatest `k` with `2 ^ k ≤ numerator / denominator`, for positive numbers. -/
def binaryExponent (numerator denominator : Nat) : Int :=
  let estimate : Int := Nat.log2 numerator - Nat.log2 denominator
  if denominator * Nat.pow 2 estimate.toNat ≤ numerator * Nat.pow 2 (-estimate).toNat then estimate
  else estimate - 1

/-- The fields below the sign of the double nearest to a fraction. Counting doubles upwards from zero
counts their bit patterns, so a significand that rounds up to the next power of two, and one that is
too large for any finite double, need no case of their own. -/
def nearestBits (numerator denominator : Nat) : Nat :=
  if numerator = 0 then 0
  else
    let exponent := max leastExponent (binaryExponent numerator denominator - 52)
    let significand :=
      roundHalfEven (numerator * Nat.pow 2 (-exponent).toNat) (denominator * Nat.pow 2 exponent.toNat)
    min ((exponent - leastExponent).toNat * fractionCount + significand) (2047 * fractionCount)

/-- The double nearest to plus or minus `numerator / denominator`. -/
def nearest (negative : Bool) (numerator denominator : Nat) : Float :=
  Float.ofBits (UInt64.ofNat
    ((if negative then Nat.pow 2 63 else 0) + nearestBits numerator denominator))

def ofNat (value : Nat) : Float := nearest false value 1

def ofInt (value : Int) : Float := nearest (value < 0) value.natAbs 1

def notANumber : Float := Float.ofBits 0x7ff8000000000000

/-- Infinity of either sign. -/
def infinity (negative : Bool) : Float :=
  Float.ofBits (if negative then 0xfff0000000000000 else 0x7ff0000000000000)

/-- Plus or minus `significand * 2 ^ exponent`, rounded to the nearest double. -/
def ofScaled (negative : Bool) (significand : Nat) (exponent : Int) : Float :=
  nearest negative (significand * Nat.pow 2 exponent.toNat) (Nat.pow 2 (-exponent).toNat)

/-- The double that a 32-bit float denotes. Every such float is a double, so nothing is rounded. -/
def ofSingleBits (bits : UInt32) : Float :=
  let negative := decide (Nat.pow 2 31 ≤ bits.toNat)
  let biased : Nat := bits.toNat / Nat.pow 2 23 % 256
  let fraction : Nat := bits.toNat % Nat.pow 2 23
  if biased = 255 then
    if fraction = 0 then infinity negative else notANumber
  else if biased = 0 then
    ofScaled negative fraction (-149)
  else
    ofScaled negative (Nat.pow 2 23 + fraction) ((biased : Int) - 150)

/-- The whole number that `significand * 2 ^ exponent` is, if it is one. -/
def whole? (significand : Nat) (exponent : Int) : Option Nat :=
  if significand % Nat.pow 2 (-exponent).toNat = 0 then
    some (significand * Nat.pow 2 exponent.toNat / Nat.pow 2 (-exponent).toNat)
  else none

def isWhole (value : Float) : Bool :=
  match parts value with
  | .finite _ significand exponent => (whole? significand exponent).isSome
  | _ => false

end FigureScript.Binary64
