import Interpose.Number.Binary

/-!
# Shortest decimal text

Model of the `Display` form of `f64`, in which `veneer_sdk::value` reports a float.

The text of a number is the decimal with the fewest digits that still reads back as the same
number, and of those the one nearest to it, written without an exponent.

The decimals of `n` digits form a grid around the number; if any point of the grid reads back,
one of the two neighbours of the number on the grid does. So the first grid with such a
neighbour decides the digits.

* `Double.text` : the text.
-/

namespace Interpose.Number

/-- A decimal `digits · 10 ^ exponent`. -/
structure Decimal where
  /-- The digits, as one number. -/
  digits : Nat
  /-- The power of ten. -/
  exponent : Int
deriving DecidableEq, Repr

/-- `a · 10 ^ e` against `b` as a comparison of whole numbers: the left and the right side,
scaled alike. -/
def Decimal.scaled (d : Decimal) (other : Nat) : Nat × Nat :=
  (d.digits * power 10 d.exponent.toNat, other * power 10 (-d.exponent).toNat)

/-- The text without an exponent: zeros fill the places between the digits and the point. -/
def Decimal.text (d : Decimal) : String :=
  let written := Nat.toDigits 10 d.digits
  if 0 ≤ d.exponent then
    String.ofList (written ++ List.replicate d.exponent.toNat '0')
  else
    let places := (-d.exponent).toNat
    if places < written.length then
      String.ofList (written.take (written.length - places)) ++ "." ++
        String.ofList (written.drop (written.length - places))
    else
      "0." ++ String.ofList (List.replicate (places - written.length) '0' ++ written)

/-- The decimal without trailing zeros in its digits, at most `fuel` of them removed. -/
def Decimal.trimmed : Nat → Decimal → Decimal
  | 0, d => d
  | fuel + 1, d =>
    if d.digits ≠ 0 ∧ d.digits % 10 = 0 then trimmed fuel ⟨d.digits / 10, d.exponent + 1⟩ else d

/-- The positive numbers that read back as one given number: those between the fractions
`low / scale` and `high / scale`, ends included when `closed`. The number itself is
`middle / scale`. -/
structure Neighbourhood where
  /-- The common denominator. -/
  scale : Nat
  /-- Numerator of the lower end. -/
  low : Nat
  /-- Numerator of the number itself. -/
  middle : Nat
  /-- Numerator of the upper end. -/
  high : Nat
  /-- Do the ends read back as well? -/
  closed : Bool

/-- The neighbourhood of `units · 2 ^ exponent` in the 64-bit format. Below a power of two the
gap is half as wide as above it. -/
def neighbourhood (units : Nat) (exponent : Int) : Neighbourhood :=
  let narrowBelow := units = power 2 52 ∧ FloatFormat.wide.minExponent < exponent
  let up := power 2 (exponent - 2).toNat
  { scale := power 2 (2 - exponent).toNat
    low := (4 * units - (if narrowBelow then 1 else 2)) * up
    middle := 4 * units * up
    high := (4 * units + 2) * up
    closed := units % 2 = 0 }

/-- Does the decimal read back as the number of the neighbourhood? -/
def Neighbourhood.holds (h : Neighbourhood) (d : Decimal) : Bool :=
  let left := d.digits * power 10 d.exponent.toNat * h.scale
  let divisor := power 10 (-d.exponent).toNat
  if h.closed then h.low * divisor ≤ left && left ≤ h.high * divisor
  else h.low * divisor < left && left < h.high * divisor

/-- The largest decimal with the given power of ten that is not above the number. -/
def Neighbourhood.below (h : Neighbourhood) (exponent : Int) : Decimal :=
  ⟨h.middle * power 10 (-exponent).toNat / (h.scale * power 10 exponent.toNat), exponent⟩

/-- Is the number nearer to the decimal above than to the one below? A tie goes up. -/
def Neighbourhood.nearerAbove (h : Neighbourhood) (below : Decimal) : Bool :=
  let divisor := power 10 (-below.exponent).toNat
  (2 * below.digits + 1) * power 10 below.exponent.toNat * h.scale ≤ 2 * h.middle * divisor

/-- The decimal of the grid with the given power of ten that reads back, if there is one. -/
def Neighbourhood.onGrid? (h : Neighbourhood) (exponent : Int) : Option Decimal :=
  let below := h.below exponent
  let above : Decimal := ⟨below.digits + 1, exponent⟩
  match h.holds below && below.digits ≠ 0, h.holds above with
  | true, true => some (if h.nearerAbove below then above else below)
  | true, false => some below
  | false, true => some above
  | false, false => none

/-- The least `e` with the number below `10 ^ e`, searched upwards from `e`. -/
def Neighbourhood.magnitude (h : Neighbourhood) : Nat → Int → Int
  | 0, e => e
  | fuel + 1, e =>
    if h.middle * power 10 (-e).toNat < h.scale * power 10 e.toNat then e
    else h.magnitude fuel (e + 1)

/-- The first of the grids `exponent`, `exponent - 1`, … with a decimal that reads back. -/
def Neighbourhood.shortest (h : Neighbourhood) : Nat → Int → Decimal
  | 0, exponent => h.below exponent
  | fuel + 1, exponent => (h.onGrid? exponent).getD (h.shortest fuel (exponent - 1))

/-- A lower bound for the power of ten above `units · 2 ^ exponent`. -/
def magnitudeGuess (units : Nat) (exponent : Int) : Int :=
  Int.fdiv (((Nat.log2 units : Nat) + exponent) * 30103) 100000 - 1

/-- The shortest decimal of a positive number: one digit first, and at most eighteen. -/
def shortestDecimal (units : Nat) (exponent : Int) : Decimal :=
  let h := neighbourhood units exponent
  let magnitude := h.magnitude 8 (magnitudeGuess units exponent)
  (h.shortest 18 (magnitude - 1)).trimmed 20

/-- The text of a number: a sign, then the shortest decimal. -/
def Double.text (x : Double) : String :=
  match x.exact with
  | .nan => "NaN"
  | .infinite negative => if negative then "-inf" else "inf"
  | .finite negative units exponent =>
    (if negative then "-" else "") ++
      (if units = 0 then "0" else (shortestDecimal units exponent).text)

end Interpose.Number
