import Interpose.Proofs.Conversion.RoundTrip

/-!
# Whole numbers are converted exactly

A whole number crosses in a signed or an unsigned carrier of 64 bits, by its type, and any integer
type reads it out of either. Nothing wraps around on the way: a type takes exactly the numbers in
its range, and an error shows the number that was sent. The numeric views of a value are written
apart from the conversions, and agree with those of their width.

* `IsDecimal` : a text is the number in decimal.
* `Exact` : what reading a number as an integer of a type comes to.

Results:
* `exact_decodeInteger` : a type reads exactly the number that a carrier holds.
* `asInt?_eq`, `asNat?_eq` : the numeric views are conversions.
* **`integers_convert_exactly`** : all pairs of integer types, and the views of all values.
-/

namespace Interpose

open Number HostType

/-! ## Decimal texts -/

/-- The digits write the number: there are some, and the first is zero only if it is the only
one. -/
structure Numeral (n : Nat) (digits : List Char) : Prop where
  nonempty : digits ≠ []
  digit : ∀ c ∈ digits, c.isDigit = true
  value : Nat.ofDigitChars 10 digits 0 = n
  leading : digits.head? = some '0' → digits = ['0']

/-- The text is the whole number in decimal. -/
def IsDecimal (n : Int) (text : String) : Prop :=
  ∃ digits, Numeral n.natAbs digits ∧ text.toList = if n < 0 then '-' :: digits else digits

/-- The digits of a positive number do not begin with zero. -/
theorem head?_toDigits_ne (n : Nat) : 0 < n → (Nat.toDigits 10 n).head? ≠ some '0' := by
  induction n using Nat.strongRecOn with
  | ind n ih =>
    intro hn
    rw [Nat.toDigits_eq_if (by decide)]
    split
    · simp only [List.head?_cons, ne_eq, Option.some.injEq, Nat.digitChar_eq_zero]
      omega
    · rw [List.head?_append_of_ne_nil _ Nat.toDigits_ne_nil]
      exact ih (n / 10) (by omega) (by omega)

theorem numeral_toDigits (n : Nat) : Numeral n (Nat.toDigits 10 n) where
  nonempty := Nat.toDigits_ne_nil
  digit := fun _ hc => Nat.isDigit_of_mem_toDigits (by decide) (by decide) hc
  value := Nat.ofDigitChars_ten_toDigits
  leading := by
    intro hhead
    rcases Nat.eq_zero_or_pos n with rfl | hn
    · exact Nat.toDigits_zero 10
    · exact absurd hhead (head?_toDigits_ne n hn)

/-- The printed form of a number is its decimal text. -/
theorem isDecimal_toString (n : Int) : IsDecimal n (toString n) := by
  refine ⟨_, numeral_toDigits n.natAbs, ?_⟩
  rw [Int.toString_eq_repr, Int.repr_eq_if]
  by_cases hn : n < 0
  · rw [if_neg (by omega), if_pos hn, String.toList_append, Nat.toList_repr,
      show (-n).toNat = n.natAbs by omega]
    rfl
  · rw [if_pos (by omega), if_neg hn, Nat.toList_repr, show n.toNat = n.natAbs by omega]

/-! ## Reading a number -/

/-- **What reading a number comes to**, if the type has to be exact about it. -/
structure Exact (k : IntegerType) (n : Int) (result : Except ConversionError k.Element) :
    Prop where
  /-- The number is read iff it is in the range of the type, and no other number is. -/
  read : ∀ y, result = .ok y ↔ k.holds n ∧ y.val = n
  /-- Otherwise the error says which number is out of the range of which type. -/
  refused : ∀ e, result = .error e ↔ ¬ k.holds n ∧ e = .outOfRange k.name (toString n)
  /-- The number stands there in decimal. -/
  decimal : ∀ target text, result = .error (.outOfRange target text) → IsDecimal n text

/-- A type reads exactly the number that the carrier holds. -/
theorem exact_decodeInteger {v : Value} {n : Int} (h : v.asWhole? = some n) (k : IntegerType) :
    Exact k n (decodeInteger k v) := by
  have hresult : decodeInteger k v =
      if hn : k.holds n then .ok ⟨n, hn⟩ else .error (.outOfRange k.name (toString n)) := by
    simp only [decodeInteger, h]
  rw [hresult]
  by_cases hn : k.holds n
  · rw [dif_pos hn]
    refine ⟨fun y => ⟨?_, ?_⟩, fun e => ⟨?_, fun he => absurd hn he.1⟩, fun target text => ?_⟩
    · rintro ⟨⟩
      exact ⟨hn, rfl⟩
    · rintro ⟨-, hy⟩
      exact congrArg Except.ok (Subtype.ext hy.symm)
    · rintro ⟨⟩
    · rintro ⟨⟩
  · rw [dif_neg hn]
    refine ⟨fun y => ⟨?_, fun hy => absurd hy.1 hn⟩, fun e => ⟨?_, ?_⟩, fun target text => ?_⟩
    · rintro ⟨⟩
    · rintro ⟨⟩
      exact ⟨hn, rfl⟩
    · rintro ⟨-, rfl⟩
      rfl
    · rintro ⟨⟩
      exact isDecimal_toString n

/-! ## The numeric views -/

/-- A signed carrier holds a signed 64-bit number. -/
theorem holds_toInt (i : Int64) : IntegerType.i64.holds i.toInt :=
  ⟨i.le_toInt, Int.le_of_lt_add_one i.toInt_lt⟩

/-- An unsigned carrier holds an unsigned one. -/
theorem holds_toNat (u : UInt64) : IntegerType.u64.holds u.toNat :=
  ⟨Int.natCast_nonneg _, Int.le_of_lt_add_one (Int.ofNat_lt.mpr u.toNat_lt)⟩

/-- What a type reads out of a value, as a number. -/
theorem decodeInteger_val (k : IntegerType) (v : Value) :
    (decodeInteger k v).toOption.map Subtype.val = v.asWhole?.filter fun n => k.holds n := by
  unfold decodeInteger
  cases v.asWhole? with
  | none => rfl
  | some n => by_cases hn : k.holds n <;> simp [hn, Option.filter, Except.toOption]

/-- The signed view reads what the signed 64-bit type reads. -/
theorem asInt?_eq (v : Value) :
    v.asInt? = ((integer .i64).decode v).toOption.map Subtype.val := by
  refine Eq.trans ?_ (decodeInteger_val .i64 v).symm
  cases v with
  | int i => simp [Value.asInt?, Value.asWhole?, Option.filter, holds_toInt]
  | uint u => simp [Value.asInt?, Value.asWhole?, Option.filter]
  | _ => rfl

/-- The unsigned view reads what the unsigned 64-bit type reads. -/
theorem asNat?_eq (v : Value) :
    v.asNat? = ((integer .u64).decode v).toOption.map Subtype.val := by
  refine Eq.trans ?_ (decodeInteger_val .u64 v).symm
  cases v with
  | int i => simp [Value.asNat?, Value.asWhole?, Option.filter]
  | uint u => simp [Value.asNat?, Value.asWhole?, Option.filter, holds_toNat]
  | _ => rfl

/-! ## All conversions -/

/-- **Integer conversions are exact.** What is written for an integer of any type holds this very
number, and every type reads it out of there exactly. A value has a signed view iff it is read as a
signed 64-bit integer, and an unsigned view iff it is read as an unsigned one, and the numbers are
the same. -/
theorem integers_convert_exactly :
    (∀ (a b : IntegerType) (x : a.Element) (supply : Supply),
      ((integer a).written x supply).asWhole? = some x.val ∧
      Exact b x.val ((integer b).decode ((integer a).written x supply))) ∧
    ∀ (v : Value) (n : Int),
      (v.asInt? = some n ↔ ∃ y, (integer .i64).decode v = .ok y ∧ y.val = n) ∧
      (v.asNat? = some n ↔ ∃ y, (integer .u64).decode v = .ok y ∧ y.val = n) := by
  have hview {k : IntegerType} {result : Except ConversionError k.Element} {n : Int} :
      result.toOption.map Subtype.val = some n ↔ ∃ y, result = .ok y ∧ y.val = n := by
    cases result <;> simp [Except.toOption]
  refine ⟨fun a b x supply => ?_, fun v n => ⟨?_, ?_⟩⟩
  · have hwhole := asWhole?_encodeInteger a x
    exact ⟨hwhole, exact_decodeInteger hwhole b⟩
  · rw [asInt?_eq]
    exact hview
  · rw [asNat?_eq]
    exact hview

example : (integer .u8).decode ((integer .i16).written ⟨-1, by decide⟩ 0) =
    .error (.outOfRange "u8" "-1") := by
  rfl

end Interpose
