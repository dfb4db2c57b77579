/-!
# Binary64 numbers

A binary64 float is handled through its bit pattern: sign, biased exponent and
fraction. A finite pattern stands for `significand * 2 ^ exponent`, with the
hidden bit included in `significand`.

`ofRatio` rounds a positive ratio of naturals to the nearest pattern, a tie
going to the even significand, as every reader of decimal text here requires;
`mul` and `div` are the float product and quotient, rounded the same way.
All arithmetic is exact, on `Nat` and `Int`.
-/

namespace Reconcile.Binary64

/-- The sign bit. -/
def negative (bits : UInt64) : Bool := bits >>> 63 == 1

/-- The biased exponent field, `0` to `2047`. -/
def biasedExponent (bits : UInt64) : Nat := ((bits >>> 52) &&& 0x7FF).toNat

/-- The fraction field, below `2 ^ 52`. -/
def fraction (bits : UInt64) : Nat := (bits &&& 0xFFFFFFFFFFFFF).toNat

/-- Whether the pattern is a finite number (not an infinity or a NaN). -/
def isFinite (bits : UInt64) : Bool := biasedExponent bits != 0x7FF

/-- Whether the pattern is zero of either sign. -/
def isZero (bits : UInt64) : Bool := bits &&& 0x7FFFFFFFFFFFFFFF == 0

/-- The significand of a finite pattern, hidden bit included. -/
def significand (bits : UInt64) : Nat :=
  if biasedExponent bits = 0 then fraction bits else fraction bits + Nat.pow 2 52

/-- The binary exponent of a finite pattern: its value is
`significand * 2 ^ exponent`. -/
def exponent (bits : UInt64) : Int :=
  if biasedExponent bits = 0 then -1074 else (biasedExponent bits : Int) - 1075

/-- The pattern made of a sign, a biased exponent and a fraction. -/
def compose (neg : Bool) (biased frac : Nat) : UInt64 :=
  ((if neg then Nat.pow 2 63 else 0) + biased * Nat.pow 2 52 + frac).toUInt64

/-- Zero with the given sign. -/
def zero (neg : Bool) : UInt64 := compose neg 0 0

/-- `x * 2 ^ k` for an integer `k`, rounded down when `k` is negative. -/
def shiftDown (x : Nat) (k : Int) : Nat :=
  if 0 ≤ k then x * Nat.pow 2 k.toNat else x / Nat.pow 2 (-k).toNat

/-- Whether `num ≥ den * 2 ^ t`. -/
def atLeastScaled (num den : Nat) (t : Int) : Bool :=
  if 0 ≤ t then decide (num ≥ den * Nat.pow 2 t.toNat) else decide (num * Nat.pow 2 (-t).toNat ≥ den)

/-- The integer `t` with `2 ^ t ≤ num / den < 2 ^ (t + 1)`, for positive
`num` and `den`. -/
def floorLog2Ratio (num den : Nat) : Int :=
  let t : Int := (Nat.log2 num : Int) - (Nat.log2 den : Int)
  if atLeastScaled num den t then t else t - 1

/-- The quotient `num / (den * 2 ^ e)` rounded to the nearest integer, a tie
going to the even one. -/
def roundScaled (num den : Nat) (e : Int) : Nat :=
  let (n, d) := if 0 ≤ e then (num, den * Nat.pow 2 e.toNat) else (num * Nat.pow 2 (-e).toNat, den)
  let q := n / d
  let r := n % d
  if 2 * r > d || (2 * r == d && q % 2 == 1) then q + 1 else q

/-- The binary64 pattern nearest to `num / den` (positive `den`) with the given
sign, a tie going to the even significand; `none` when the magnitude rounds past
the largest finite value. -/
def ofRatio (neg : Bool) (num den : Nat) : Option UInt64 :=
  if num = 0 ∨ den = 0 then some (zero neg) else
  let e0 : Int := max (floorLog2Ratio num den - 52) (-1074)
  let q0 := roundScaled num den e0
  let (q, e) := if q0 = Nat.pow 2 53 then (Nat.pow 2 52, e0 + 1) else (q0, e0)
  if q < Nat.pow 2 52 then some (compose neg 0 q)
  else
    let biased := e + 1075
    if biased ≥ 2047 then none else some (compose neg biased.toNat (q - Nat.pow 2 52))

/-- The number of decimal digits of `n` (one for zero). -/
def decimalLength (n : Nat) : Nat := (Nat.toDigits 10 n).length

/-- The binary64 pattern nearest to `digits * 10 ^ exp10` with the given sign;
`none` when it rounds past the largest finite value. -/
def ofDecimal (neg : Bool) (digits : Nat) (exp10 : Int) : Option UInt64 :=
  if digits = 0 then some (zero neg)
  else if exp10 + decimalLength digits > 310 then none
  else if exp10 + decimalLength digits < -330 then some (zero neg)
  else if 0 ≤ exp10 then ofRatio neg (digits * Nat.pow 10 exp10.toNat) 1
  else ofRatio neg digits (Nat.pow 10 (-exp10).toNat)

/-- The pattern of a natural number, rounded to nearest. -/
def ofNat (n : Nat) : UInt64 := (ofRatio false n 1).getD 0

/-- The pattern with the sign flipped. -/
def negate (bits : UInt64) : UInt64 := bits ^^^ 0x8000000000000000

/-- The product of two finite patterns, rounded to nearest with a tie going
to the even significand; `none` when it rounds past the largest finite
value. -/
def mul (a b : UInt64) : Option UInt64 :=
  let neg := negative a != negative b
  let m := significand a * significand b
  let e := exponent a + exponent b
  if 0 ≤ e then ofRatio neg (m * Nat.pow 2 e.toNat) 1 else ofRatio neg m (Nat.pow 2 (-e).toNat)

/-- The quotient of two finite patterns, the divisor not zero, rounded to
nearest with a tie going to the even significand; `none` when it rounds past
the largest finite value. -/
def div (a b : UInt64) : Option UInt64 :=
  let neg := negative a != negative b
  let e := exponent a - exponent b
  if 0 ≤ e then ofRatio neg (significand a * Nat.pow 2 e.toNat) (significand b)
  else ofRatio neg (significand a) (significand b * Nat.pow 2 (-e).toNat)

end Reconcile.Binary64
