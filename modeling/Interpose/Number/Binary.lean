import Interpose.Number.Integer

/-!
# Binary floating-point numbers

Model of `f64` and `f32` as `veneer_sdk::value` (`as_f64`, `eq`) and `veneer_sdk::convert`
(`from_value` and `to_value` of both) use them.

Numbers of the two IEEE 754 interchange formats that cross the value boundary, kept as their
bits. All arithmetic here is exact: a finite number is decoded into a whole number of units
`m · 2 ^ q`, and every result is rounded once, to the nearest number of the format, a tie to the
even one.

* `Double.ofInt`, `Single.ofDouble`, `Double.ofSingle` : the conversions.
* `Double.same` : numeric equality, where a NaN differs from everything and the two zeros agree.
-/

namespace Interpose.Number

/-- The shape of an interchange format. -/
structure FloatFormat where
  /-- Stored bits of the significand. -/
  significandBits : Nat
  /-- Bits of the exponent field. -/
  exponentBits : Nat
  /-- The unit of the smallest numbers is `2 ^ minExponent`. -/
  minExponent : Int

/-- The 64-bit format. -/
def FloatFormat.wide : FloatFormat := ⟨52, 11, -1074⟩

/-- The 32-bit format. -/
def FloatFormat.narrow : FloatFormat := ⟨23, 8, -149⟩

/-- The bits of positive infinity, which are above those of every finite number. -/
def FloatFormat.infinityBits (f : FloatFormat) : Nat :=
  (power 2 f.exponentBits - 1) * power 2 f.significandBits

/-- The weight of the sign bit. -/
def FloatFormat.signBit (f : FloatFormat) : Nat := power 2 (f.significandBits + f.exponentBits)

/-- A number of either format, format and bits forgotten. -/
inductive Exact where
  /-- Not a number. -/
  | nan
  /-- An infinity. -/
  | infinite (negative : Bool)
  /-- The number `± units · 2 ^ exponent`. -/
  | finite (negative : Bool) (units : Nat) (exponent : Int)
deriving DecidableEq, Repr

/-- The number that bits of the format stand for. -/
def FloatFormat.decode (f : FloatFormat) (bits : Nat) : Exact :=
  let negative := f.signBit ≤ bits
  let magnitude := bits % f.signBit
  if f.infinityBits < magnitude then .nan
  else if magnitude = f.infinityBits then .infinite negative
  else
    let stored := magnitude % power 2 f.significandBits
    let field := magnitude / power 2 f.significandBits
    if field = 0 then .finite negative stored f.minExponent
    else .finite negative (power 2 f.significandBits + stored) (f.minExponent + (field - 1 : Nat))

/-- `n / 2 ^ k` rounded to the nearest whole number, a tie to the even one. -/
def halfEven (n k : Nat) : Nat :=
  let quotient := n / power 2 k
  let twice := 2 * (n % power 2 k)
  if power 2 k < twice ∨ (twice = power 2 k ∧ quotient % 2 = 1) then quotient + 1 else quotient

/-- The bits of the number of the format nearest to `units · 2 ^ exponent`. A carry out of the
significand runs into the exponent field, where it belongs. -/
def FloatFormat.roundMagnitude (f : FloatFormat) (units : Nat) (exponent : Int) : Nat :=
  if units = 0 then 0
  else
    let top : Int := exponent + (Nat.log2 units : Nat) - (f.significandBits : Nat)
    let target := max top f.minExponent
    let significand :=
      if target ≤ exponent then units * power 2 (exponent - target).toNat
      else halfEven units (target - exponent).toNat
    min ((target - f.minExponent).toNat * power 2 f.significandBits + significand) f.infinityBits

/-- The canonical bits of "not a number". -/
def FloatFormat.nanBits (f : FloatFormat) : Nat := f.infinityBits + power 2 (f.significandBits - 1)

/-- The bits of the number of the format nearest to `r`. -/
def FloatFormat.encode (f : FloatFormat) : Exact → Nat
  | .nan => f.nanBits
  | .infinite negative => (if negative then f.signBit else 0) + f.infinityBits
  | .finite negative units exponent =>
    (if negative then f.signBit else 0) + f.roundMagnitude units exponent

/-- A 64-bit number. -/
structure Double where
  /-- Sign, exponent and significand, from the top. -/
  bits : UInt64
deriving DecidableEq, Repr

/-- A 32-bit number. -/
structure Single where
  /-- Sign, exponent and significand, from the top. -/
  bits : UInt32
deriving DecidableEq, Repr

namespace Double

/-- The number behind the bits. -/
def exact (x : Double) : Exact := FloatFormat.wide.decode x.bits.toNat

/-- The nearest 64-bit number. -/
def ofExact (r : Exact) : Double := ⟨UInt64.ofNat (FloatFormat.wide.encode r)⟩

/-- The nearest 64-bit number to a whole number. -/
def ofInt (i : Int) : Double := ofExact (.finite (i < 0) i.natAbs 0)

/-- Is the number not a number? -/
def isNaN (x : Double) : Bool := x.exact = .nan

/-- Is the number zero, of either sign? -/
def isZero (x : Double) : Bool := x.bits = 0 || x.bits = 0x8000000000000000

/-- Numeric equality: a NaN differs from every number and the two zeros are equal. -/
def same (x y : Double) : Bool :=
  !x.isNaN && !y.isNaN && (x.bits = y.bits || (x.isZero && y.isZero))

end Double

namespace Single

/-- The number behind the bits. -/
def exact (x : Single) : Exact := FloatFormat.narrow.decode x.bits.toNat

/-- The nearest 32-bit number. -/
def ofDouble (x : Double) : Single := ⟨UInt32.ofNat (FloatFormat.narrow.encode x.exact)⟩

end Single

/-- The same number in the wider format, which holds it exactly. -/
def Double.ofSingle (x : Single) : Double := .ofExact x.exact

end Interpose.Number
