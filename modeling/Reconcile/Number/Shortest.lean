import Reconcile.Number.Binary64

/-!
# Shortest decimal text of a binary64 number

`shortest` finds, for a finite nonzero float, the decimal `c * 10 ^ p` with the
fewest digits that reads back as the same float, and of two such decimals the
one nearer to the float (an exact tie goes to the even `c`).

The reals that read back as the float form an interval around it, bounded by
the midpoints to its two neighbours; both ends belong to it when the
significand is even. The lower neighbour is nearer when the significand is a
power of two above the smallest normal exponent. For each grid `10 ^ p`, from
the coarsest down, only the two grid points next to the float can fall inside,
so the first grid with a hit gives the answer.

`FloatText` writes the digits in the layout that document texts use: positional
with a `.0` on integral values up to sixteen digits before the point, a
`0.000ddd` form down to four leading zeros, and `de-x` or `d.ddde-x` otherwise.
-/

namespace Reconcile.Shortest

/-- Compares `c * 10 ^ p` with `x * 2 ^ q`. -/
def compareScaled (c : Nat) (p : Int) (x : Nat) (q : Int) : Ordering :=
  let lhs := c * Nat.pow 10 (max p 0).toNat * Nat.pow 2 (max (-q) 0).toNat
  let rhs := x * Nat.pow 2 (max q 0).toNat * Nat.pow 10 (max (-p) 0).toNat
  compare lhs rhs

/-- The interval of reals that read back as one float, on the scale
`2 ^ scale`: from `low` to `high`, ends included when `closed`. -/
structure Interval where
  low : Nat
  high : Nat
  scale : Int
  closed : Bool

/-- Whether `c * 10 ^ p` lies in the interval. -/
def Interval.holds (i : Interval) (c : Nat) (p : Int) : Bool :=
  let aboveLow := match compareScaled c p i.low i.scale with
    | .gt => true
    | .eq => i.closed
    | .lt => false
  let belowHigh := match compareScaled c p i.high i.scale with
    | .lt => true
    | .eq => i.closed
    | .gt => false
  aboveLow && belowHigh

/-- The interval of the float `m * 2 ^ e`; `lowerHalf` says that the lower
neighbour is half as far as the upper one. -/
def interval (m : Nat) (e : Int) (lowerHalf : Bool) : Interval :=
  { low := if lowerHalf then 4 * m - 1 else 4 * m - 2
    high := 4 * m + 2
    scale := e - 2
    closed := m % 2 == 0 }

/-- `floor (m * 2 ^ e / 10 ^ p)`. -/
def gridFloor (m : Nat) (e p : Int) : Nat :=
  (m * Nat.pow 2 (max e 0).toNat * Nat.pow 10 (max (-p) 0).toNat) / (Nat.pow 2 (max (-e) 0).toNat * Nat.pow 10 (max p 0).toNat)

/-- The decimal exponent of the leading digit of `m * 2 ^ e`, for `m > 0`:
the `k` with `10 ^ k ≤ m * 2 ^ e < 10 ^ (k + 1)`. -/
def leadingExponent (m : Nat) (e : Int) : Int :=
  let whole := gridFloor m e 0
  if whole > 0 then (Binary64.decimalLength whole : Int) - 1
  else
    -- below one: the first `k` for which `m * 2 ^ e * 10 ^ k` reaches one
    let rec search (k : Nat) : Nat → Int
      | 0 => -(k : Int)
      | fuel + 1 => if gridFloor m e (-(k : Int)) > 0 then -(k : Int) else search (k + 1) fuel
    search 1 400

/-- Drops trailing zero digits of `c * 10 ^ p`. -/
def trimZeros (c : Nat) (p : Int) : Nat × Int :=
  let rec go (c : Nat) (p : Int) : Nat → Nat × Int
    | 0 => (c, p)
    | fuel + 1 => if c > 0 && c % 10 == 0 then go (c / 10) (p + 1) fuel else (c, p)
  go c p 400

/-- Of the two grid points `lo * 10 ^ p` and `(lo + 1) * 10 ^ p` around
`m * 2 ^ e`, the nearer one; a tie goes to the even one. -/
def nearer (m : Nat) (e : Int) (lo : Nat) (p : Int) : Nat :=
  match compareScaled (2 * lo + 1) p (2 * m) e with
  | .gt => lo
  | .lt => lo + 1
  | .eq => if lo % 2 == 0 then lo else lo + 1

/-- The shortest decimal `(c, p)`, with `c * 10 ^ p` reading back as the float
`m * 2 ^ e` (`m > 0`), nearest of the shortest, and no trailing zero in `c`. -/
def digits (m : Nat) (e : Int) (lowerHalf : Bool) : Nat × Int :=
  let i := interval m e lowerHalf
  let top := leadingExponent m e
  let rec scan (p : Int) : Nat → Nat × Int
    | 0 => trimZeros (gridFloor m e p) p
    | fuel + 1 =>
      let lo := gridFloor m e p
      let loIn := lo > 0 && i.holds lo p
      let hiIn := i.holds (lo + 1) p
      if loIn && hiIn then trimZeros (nearer m e lo p) p
      else if loIn then trimZeros lo p
      else if hiIn then trimZeros (lo + 1) p
      else scan (p - 1) fuel
  scan top 20

/-- The shortest decimal of a finite nonzero pattern. -/
def ofBits (bits : UInt64) : Nat × Int :=
  let lowerHalf := Binary64.fraction bits == 0 && Binary64.biasedExponent bits > 1
  digits (Binary64.significand bits) (Binary64.exponent bits) lowerHalf

end Reconcile.Shortest

namespace Reconcile

/-- Where a written float switches between positional and exponent form, and
whether a positive exponent carries its sign. An exponent has no leading
zeros. -/
structure FloatText where
  /-- Largest count of digits before the point still written positionally. -/
  maxWhole : Int
  /-- Most leading zeros after the point still written positionally, plus one. -/
  maxLeadingZeros : Int
  /-- Whether a positive exponent has a plus sign. -/
  plusSign : Bool

namespace FloatText

/-- The layout of floats in YAML text: `1e16`, `1.5e-9`. -/
def yaml : FloatText := ⟨16, 5, false⟩

/-- The layout of floats in JSON text and in the errors of decoding a
document: `1e+16`, `1.5e-9`. -/
def json : FloatText := ⟨16, 5, true⟩

/-- A string of `n` zeros. -/
def zeros (n : Nat) : String := String.ofList (List.replicate n '0')

/-- Writes `c * 10 ^ p` (no trailing zero in `c`) in this layout. -/
def layout (style : FloatText) (c : Nat) (p : Int) : String :=
  let ds := Nat.toDigits 10 c
  let len : Int := ds.length
  let kk := len + p
  if 0 ≤ p ∧ kk ≤ style.maxWhole then
    String.ofList ds ++ zeros p.toNat ++ ".0"
  else if 0 < kk ∧ kk ≤ style.maxWhole then
    String.ofList (ds.take kk.toNat) ++ "." ++ String.ofList (ds.drop kk.toNat)
  else if -style.maxLeadingZeros < kk ∧ kk ≤ 0 then
    "0." ++ zeros (-kk).toNat ++ String.ofList ds
  else
    let mantissa := match ds with
      | [d] => String.ofList [d]
      | d :: rest => String.ofList [d] ++ "." ++ String.ofList rest
      | [] => "0"
    let e := kk - 1
    let ds := Nat.toDigits 10 e.natAbs
    let sign := if e < 0 then "-" else if style.plusSign then "+" else ""
    mantissa ++ "e" ++ sign ++ String.ofList ds

/-- The text of a finite float pattern. -/
def write (style : FloatText) (bits : UInt64) : String :=
  let sign := if Binary64.negative bits then "-" else ""
  if Binary64.isZero bits then sign ++ "0.0"
  else
    let (c, p) := Shortest.ofBits bits
    sign ++ style.layout c p

end FloatText

end Reconcile
