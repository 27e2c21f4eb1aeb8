import AccountAdmin.Text.Digits

/-!
# Double precision numbers

A number with a fraction or an exponent is held as a binary floating point number with 53
significant bits, rounded to nearest with ties to even.  Here it is its 64 bits, and all
arithmetic on it is exact arithmetic of natural numbers followed by one rounding, so that every
value can be computed inside a proof.

* `Double`: the bits.
* `Double.significand`, `Double.exponent`: a finite number is `± significand * 2 ^ exponent`.
* `roundRatio`: the bits of the double nearest to a nonnegative ratio.
* `Double.ofScientific?`: the double for a significand and a power of ten, rounded in steps.
* `Double.nearest`: the double nearest to a decimal number.
-/

namespace AccountAdmin

/-- A double precision number, as its 64 bits: sign, eleven bits of exponent, 52 of fraction. -/
structure Double where
  bits : UInt64
  deriving DecidableEq, Repr, Inhabited

namespace Double

/-- The sign bit, `2 ^ 63`. -/
def signBit : Nat := 0x8000000000000000

/-- The bit in front of the fraction, `2 ^ 52`, which is not among the bits of a number. -/
def leadingBit : Nat := 0x10000000000000

/-- The bits without the sign. -/
def magnitude (d : Double) : Nat := d.bits.toNat % signBit

/-- Whether the sign bit is set. -/
def isNegative (d : Double) : Bool := signBit ≤ d.bits.toNat

/-- The magnitude of infinity; finite numbers have smaller ones. -/
def infinity : Nat := 0x7FF * leadingBit

/-- The integer factor of the number with the given magnitude. -/
def significand (magnitude : Nat) : Nat :=
  if magnitude < leadingBit then magnitude else magnitude % leadingBit + leadingBit

/-- The power of two of the number with the given magnitude, counted up from the least one, which
is `-1074`. -/
def exponent (magnitude : Nat) : Nat := magnitude / leadingBit - 1

/-- The number with the given magnitude as a ratio. -/
def ratio (magnitude : Nat) : Nat × Nat :=
  (significand magnitude * Nat.pow 2 (exponent magnitude), Nat.pow 2 1074)

/-- The quotient of `num` by `den` rounded to nearest, ties to even. -/
def divideToEven (num den : Nat) : Nat :=
  let q := num / den
  let twice := 2 * (num % den)
  if den < twice ∨ (twice = den ∧ q % 2 = 1) then q + 1 else q

/-- The magnitude of the double nearest to `num / den`.  The ratio is divided by the power of two
that leaves 53 bits before the point, or by the least power there is; a rounding that carries into
a 54th bit moves on to the next exponent by itself.  The result is `infinity` or more when the ratio
is too large. -/
def roundRatio (num den : Nat) : Nat :=
  let scaled := num * Nat.pow 2 1074
  let e := scaled.log2 - den.log2 - 53
  let e := if scaled / (den * Nat.pow 2 e) < 2 * leadingBit then e else e + 1
  e * leadingBit + divideToEven scaled (den * Nat.pow 2 e)

/-- The magnitude of the double nearest to `10 ^ n`. -/
def power10 (n : Nat) : Nat := roundRatio (Nat.pow 10 n) 1

/-- The product of a magnitude and the double nearest to a power of ten. -/
def times10 (magnitude n : Nat) : Nat :=
  let a := ratio magnitude
  let b := ratio (power10 n)
  roundRatio (a.1 * b.1) (a.2 * b.2)

/-- The quotient of a magnitude by the double nearest to a power of ten. -/
def over10 (magnitude n : Nat) : Nat :=
  let a := ratio magnitude
  let b := ratio (power10 n)
  roundRatio (a.1 * b.2) (a.2 * b.1)

/-- Puts a sign on a magnitude. -/
def signed (negative : Bool) (magnitude : Nat) : Double :=
  ⟨UInt64.ofNat (if negative then signBit + magnitude else magnitude)⟩

/-- The magnitude of `f * 10 ^ (-n)`, where `n` may exceed the greatest power of ten there is, 308:
the number is divided by `10 ^ 308` until what is left of `n` is small enough. -/
def shrink : (fuel magnitude n : Nat) → Nat
  | 0, magnitude, _ => magnitude
  | fuel + 1, magnitude, n =>
    if n ≤ 308 then over10 magnitude n
    else if magnitude = 0 then 0
    else shrink fuel (over10 magnitude 308) (n - 308)

/-- The double for `significand * 10 ^ exponent` read from text: the significand is rounded first,
then multiplied or divided by a power of ten and rounded again.  There is none when the result is
too large. -/
def ofScientific? (negative : Bool) (significand : Nat) (exponent : Int) : Option Double :=
  let f := roundRatio significand 1
  match exponent with
  | .ofNat n =>
    if n ≤ 308 then
      let product := times10 f n
      if product < infinity then some (signed negative product) else none
    else if f = 0 then some (signed negative 0)
    else none
  | .negSucc n => some (signed negative (shrink (n + 1) f (n + 1)))

/-- The magnitude of the double nearest to `significand * 10 ^ exponent`, infinity if that is too
large. A number of which the first digit stands far to the left or to the right of the point is not
computed. -/
def nearestMagnitude (significand : Nat) (exponent : Int) : Nat :=
  let first := ((Text.decimal significand).length : Int) + exponent
  if significand = 0 ∨ first < -330 then 0
  else if 310 < first then infinity
  else
    min infinity (match exponent with
      | .ofNat n => roundRatio (significand * Nat.pow 10 n) 1
      | .negSucc n => roundRatio significand (Nat.pow 10 (n + 1)))

/-- The double nearest to a decimal number. -/
def nearest (negative : Bool) (significand : Nat) (exponent : Int) : Double :=
  signed negative (nearestMagnitude significand exponent)

end Double

end AccountAdmin
