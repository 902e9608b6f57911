/-!
# Bounded integer types

Model of the types that `signed_int!` and `unsigned_int!` of `veneer_sdk::convert` are used at.

The ten integer types of the host that cross the value boundary. The two sizes that depend on
the machine have 64 bits.

* `IntegerType.holds` : the range of a type.
* `IntegerType.Element` : the integers of a type, as whole numbers with their range.
-/

namespace Interpose.Number

/-- The power `b ^ n` of whole numbers. -/
def power (b n : Nat) : Nat := b.pow n

/-- An integer type of the host. -/
inductive IntegerType where
  | i8
  | i16
  | i32
  | i64
  | isize
  | u8
  | u16
  | u32
  | u64
  | usize
deriving DecidableEq, Repr

namespace IntegerType

/-- The name of the type in signatures and messages. -/
def name : IntegerType → String
  | i8 => "i8"
  | i16 => "i16"
  | i32 => "i32"
  | i64 => "i64"
  | isize => "isize"
  | u8 => "u8"
  | u16 => "u16"
  | u32 => "u32"
  | u64 => "u64"
  | usize => "usize"

/-- Does the type have negative numbers? -/
def isSigned : IntegerType → Bool
  | i8 | i16 | i32 | i64 | isize => true
  | u8 | u16 | u32 | u64 | usize => false

/-- The number of bits. -/
def width : IntegerType → Nat
  | i8 | u8 => 8
  | i16 | u16 => 16
  | i32 | u32 => 32
  | i64 | isize | u64 | usize => 64

/-- The least number of the type. -/
def low (t : IntegerType) : Int := if t.isSigned then -(power 2 (t.width - 1) : Nat) else 0

/-- The greatest number of the type. -/
def high (t : IntegerType) : Int :=
  (if t.isSigned then power 2 (t.width - 1) else power 2 t.width : Nat) - 1

/-- Does the type hold `n`? -/
def holds (t : IntegerType) (n : Int) : Prop := t.low ≤ n ∧ n ≤ t.high

instance (t : IntegerType) (n : Int) : Decidable (t.holds n) :=
  inferInstanceAs (Decidable (_ ∧ _))

/-- The integers of the type. -/
abbrev Element (t : IntegerType) : Type := { n : Int // t.holds n }

end IntegerType

end Interpose.Number
