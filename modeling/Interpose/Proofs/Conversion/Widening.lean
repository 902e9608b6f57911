import Interpose.Number.Binary
import Mathlib.Data.Nat.Log
import Mathlib.Tactic.Ring

/-!
# Widening a floating-point number

A 32-bit number is read back from the 64-bit one that holds it: rounding gives a number of the
format itself whatever unit it is written in, so narrowing after widening gives every number back
but a "not a number", of which only the canonical one survives.

* `FloatFormat.Canonical`: the units and the exponent by which the format writes a finite number.
* `FloatFormat.decode_magnitude`, `FloatFormat.exists_canonical`: the finite numbers of a format.
* `FloatFormat.roundMagnitude_finer`, `FloatFormat.roundMagnitude_coarser`: rounding a number of
  the format in other units.
* **`Single.ofDouble_ofSingle`**: narrowing after widening.
-/

namespace Interpose.Number

theorem power_eq (b n : Nat) : power b n = b ^ n := rfl

/-- A number of units that the smaller unit divides is not rounded. -/
theorem halfEven_mul (n k : Nat) : halfEven (n * 2 ^ k) k = n := by
  have hpos : 0 < 2 ^ k := Nat.two_pow_pos k
  simp only [halfEven, power_eq, Nat.mul_div_cancel _ hpos, Nat.mul_mod_left]
  exact if_neg (by omega)

theorem log2_mul_two_pow {n : Nat} (hn : n ≠ 0) (j : Nat) :
    (n * 2 ^ j).log2 = n.log2 + j := by
  have hne : n * 2 ^ j ≠ 0 := Nat.mul_ne_zero hn (Nat.two_pow_pos j).ne'
  refine (Nat.log2_eq_iff hne).mpr ⟨?_, ?_⟩
  · rw [Nat.pow_add]
    exact Nat.mul_le_mul_right _ (Nat.log2_self_le hn)
  · rw [Nat.add_right_comm, Nat.pow_add]
    exact Nat.mul_lt_mul_of_pos_right Nat.lt_log2_self (Nat.two_pow_pos j)

namespace FloatFormat

variable {f : FloatFormat} {units : Nat} {exponent : Int}

/-- The bits of the sign. -/
def sign (f : FloatFormat) (negative : Bool) : Nat := if negative then f.signBit else 0

/-- The bits below the sign of the number `units · 2 ^ exponent`. -/
def magnitude (f : FloatFormat) (units : Nat) (exponent : Int) : Nat :=
  (exponent - f.minExponent).toNat * 2 ^ f.significandBits + units

/-- The format writes a finite number as `units · 2 ^ exponent`: the exponent is the least one, or
the leading bit is stored nowhere. -/
structure Canonical (f : FloatFormat) (units : Nat) (exponent : Int) : Prop where
  units_lt : units < 2 ^ (f.significandBits + 1)
  least_le : f.minExponent ≤ exponent
  leading : f.minExponent < exponent → 2 ^ f.significandBits ≤ units
  finite : f.magnitude units exponent < f.infinityBits

theorem infinityBits_lt_signBit (f : FloatFormat) : f.infinityBits < f.signBit := by
  simp only [infinityBits, signBit, power_eq, Nat.pow_add, Nat.mul_comm (2 ^ f.significandBits)]
  exact Nat.mul_lt_mul_of_pos_right (Nat.sub_lt (Nat.two_pow_pos _) Nat.one_pos)
    (Nat.two_pow_pos _)

theorem sign_le (f : FloatFormat) (negative : Bool) : f.sign negative ≤ f.signBit := by
  cases negative
  · exact Nat.zero_le _
  · exact Nat.le_refl _

/-- The bits below the sign bit and the sign bit itself. -/
theorem sign_add {m : Nat} (hm : m < f.signBit) (negative : Bool) :
    (f.sign negative + m) % f.signBit = m ∧
      decide (f.signBit ≤ f.sign negative + m) = negative := by
  cases negative with
  | false => simp [sign, Nat.mod_eq_of_lt hm, hm]
  | true => simp [sign, Nat.mod_eq_of_lt hm]

/-- Every pattern of bits has a sign and bits below it. -/
theorem exists_sign_add {bits : Nat} (h : bits < 2 * f.signBit) :
    ∃ negative m, m < f.signBit ∧ bits = f.sign negative + m := by
  by_cases hs : bits < f.signBit
  · exact ⟨false, bits, hs, by simp [sign]⟩
  · exact ⟨true, bits - f.signBit, by omega, by simp [sign]; omega⟩

/-! ## The finite numbers of a format -/

/-- A finite number is read as the format writes it. -/
theorem decode_magnitude (hc : f.Canonical units exponent) (negative : Bool) :
    f.decode (f.sign negative + f.magnitude units exponent) = .finite negative units exponent := by
  have hpos : 0 < 2 ^ f.significandBits := Nat.two_pow_pos _
  obtain ⟨hbits, hneg⟩ :=
    f.sign_add (Nat.lt_trans hc.finite f.infinityBits_lt_signBit) negative
  simp only [decode, hbits, hneg, if_neg (Nat.lt_asymm hc.finite), if_neg (Nat.ne_of_lt hc.finite),
    power_eq]
  have hleast := hc.least_le
  have hunits := hc.units_lt
  rw [Nat.pow_succ] at hunits
  by_cases hlow : units < 2 ^ f.significandBits
  · -- No leading bit, so the exponent is the least one.
    have heq : exponent = f.minExponent := by
      by_contra hne
      exact absurd (hc.leading (by omega)) (by omega)
    subst heq
    simp [magnitude, Nat.div_eq_of_lt hlow, Nat.mod_eq_of_lt hlow]
  · obtain ⟨stored, rfl⟩ := Nat.exists_eq_add_of_le (Nat.le_of_not_lt hlow)
    have hstored : stored < 2 ^ f.significandBits := by omega
    obtain ⟨d, rfl⟩ := Int.le.dest hleast
    have hm : f.magnitude (2 ^ f.significandBits + stored) (f.minExponent + d) =
        stored + (d + 1) * 2 ^ f.significandBits := by
      simp only [magnitude, add_sub_cancel_left, Int.toNat_natCast]
      ring
    simp [hm, Nat.add_mul_div_right _ _ hpos, Nat.div_eq_of_lt hstored, Nat.mod_eq_of_lt hstored]

/-- Bits below those of infinity are those of a finite number. -/
theorem exists_canonical {m : Nat} (hm : m < f.infinityBits) :
    ∃ units exponent, f.Canonical units exponent ∧ m = f.magnitude units exponent := by
  have hpos : 0 < 2 ^ f.significandBits := Nat.two_pow_pos _
  have hstored := Nat.mod_lt m hpos
  have hsplit := Nat.div_add_mod m (2 ^ f.significandBits)
  rw [Nat.mul_comm] at hsplit
  cases hfield : m / 2 ^ f.significandBits with
  | zero =>
    rw [hfield, Nat.zero_mul, Nat.zero_add] at hsplit
    have heq : m = f.magnitude m f.minExponent := by simp [magnitude]
    refine ⟨m, f.minExponent, ⟨?_, Int.le_refl _, fun h => absurd h (Int.lt_irrefl _), heq ▸ hm⟩,
      heq⟩
    rw [Nat.pow_succ]
    omega
  | succ d =>
    have heq : m = f.magnitude (2 ^ f.significandBits + m % 2 ^ f.significandBits)
        (f.minExponent + d) := by
      rw [hfield] at hsplit
      simp only [magnitude, add_sub_cancel_left, Int.toNat_natCast]
      rw [← Nat.add_assoc, ← Nat.succ_mul]
      exact hsplit.symm
    refine ⟨_, _, ⟨?_, Int.le_add_of_nonneg_right (Int.natCast_nonneg d),
      fun _ => Nat.le_add_right _ _, heq ▸ hm⟩, heq⟩
    rw [Nat.pow_succ]
    omega

/-! ## Rounding a number of the format -/

/-- The exponent of a number of the format is the one that rounding aims at. -/
theorem Canonical.target (hc : f.Canonical units exponent) (hunits : units ≠ 0) :
    max (exponent + (Nat.log2 units : Nat) - (f.significandBits : Nat)) f.minExponent =
      exponent := by
  have hleast := hc.least_le
  have hlog : units.log2 < f.significandBits + 1 := (Nat.log2_lt hunits).mpr hc.units_lt
  by_cases hlow : units < 2 ^ f.significandBits
  · have hlower : units.log2 < f.significandBits := (Nat.log2_lt hunits).mpr hlow
    have heq : ¬ f.minExponent < exponent := fun h => absurd (hc.leading h) (by omega)
    omega
  · have hupper : f.significandBits ≤ units.log2 := (Nat.le_log2 hunits).mpr (by omega)
    omega

/-- A number of the format, in smaller units, is rounded to itself. -/
theorem roundMagnitude_finer (hc : f.Canonical units exponent) (hunits : units ≠ 0) (j : Nat) :
    f.roundMagnitude (units * 2 ^ j) (exponent - j) = f.magnitude units exponent := by
  have hne : units * 2 ^ j ≠ 0 := Nat.mul_ne_zero hunits (Nat.two_pow_pos j).ne'
  have htop : exponent - j + ((units * 2 ^ j).log2 : Nat) - (f.significandBits : Nat) =
      exponent + (units.log2 : Nat) - (f.significandBits : Nat) := by
    rw [log2_mul_two_pow hunits]
    push_cast
    ring
  simp only [roundMagnitude, if_neg hne, htop, hc.target hunits, power_eq]
  by_cases hj : j = 0
  · subst hj
    simpa [magnitude] using hc.finite.le
  · have hshift : (exponent - (exponent - j)).toNat = j := by omega
    rw [if_neg (by omega), hshift, halfEven_mul]
    exact min_eq_left hc.finite.le

/-- A number of the format, in greater units, is rounded to itself. -/
theorem roundMagnitude_coarser {n j : Nat} (hc : f.Canonical (n * 2 ^ j) exponent) (hn : n ≠ 0) :
    f.roundMagnitude n (exponent + j) = f.magnitude (n * 2 ^ j) exponent := by
  have hunits : n * 2 ^ j ≠ 0 := Nat.mul_ne_zero hn (Nat.two_pow_pos j).ne'
  have htop : exponent + j + (n.log2 : Nat) - (f.significandBits : Nat) =
      exponent + ((n * 2 ^ j).log2 : Nat) - (f.significandBits : Nat) := by
    rw [log2_mul_two_pow hn]
    push_cast
    ring
  have hshift : (exponent + j - exponent).toNat = j := by omega
  simp only [roundMagnitude, if_neg hn, htop, hc.target hunits, power_eq]
  rw [if_pos (by omega), hshift]
  exact min_eq_left hc.finite.le

/-- Infinity is read as it is written. -/
theorem decode_infinite (f : FloatFormat) (negative : Bool) :
    f.decode (f.sign negative + f.infinityBits) = .infinite negative := by
  obtain ⟨hbits, hneg⟩ := f.sign_add f.infinityBits_lt_signBit negative
  simp [decode, hbits, hneg]

/-- The bits are those of a "not a number", of an infinity or of a finite number. -/
theorem decode_cases {bits : Nat} (h : bits < 2 * f.signBit) :
    f.decode bits = .nan ∨
    (∃ negative, bits = f.sign negative + f.infinityBits) ∨
    ∃ negative units exponent, f.Canonical units exponent ∧
      bits = f.sign negative + f.magnitude units exponent := by
  obtain ⟨negative, m, hm, rfl⟩ := exists_sign_add h
  rcases Nat.lt_trichotomy m f.infinityBits with hlt | rfl | hgt
  · obtain ⟨units, exponent, hc, rfl⟩ := exists_canonical hlt
    exact .inr (.inr ⟨negative, units, exponent, hc, rfl⟩)
  · exact .inr (.inl ⟨negative, rfl⟩)
  · left
    simp [decode, (f.sign_add hm negative).1, hgt]

/-- What writing a number gives stays below twice the sign bit. -/
theorem sign_add_lt {m : Nat} (hm : m < f.signBit) (negative : Bool) :
    f.sign negative + m < 2 * f.signBit := by
  have := f.sign_le negative
  omega

end FloatFormat

open FloatFormat

/-! ## The 32-bit numbers among the 64-bit ones -/

/-- The 64-bit format holds a 32-bit number other than zero, in units that fill its significand. -/
theorem exists_canonical_wide {units : Nat} {exponent : Int} (hc : narrow.Canonical units exponent)
    (hunits : units ≠ 0) : ∃ j : Nat, wide.Canonical (units * 2 ^ j) (exponent - j) := by
  have hlog : units.log2 < 24 := (Nat.log2_lt hunits).mpr hc.units_lt
  have hlow : 2 ^ units.log2 ≤ units := Nat.log2_self_le hunits
  have hhigh : units < 2 ^ (units.log2 + 1) := Nat.lt_log2_self
  have hleast : -149 ≤ exponent := hc.least_le
  have hfinite : (exponent - -149).toNat * 2 ^ 23 + units < 255 * 2 ^ 23 := hc.finite
  have hgreatest : exponent ≤ 105 := by omega
  have hfill : ∀ i, units.log2 ≤ i → 2 ^ units.log2 * 2 ^ (i - units.log2) = 2 ^ i := fun i hi => by
    rw [← Nat.pow_add, Nat.add_sub_cancel' hi]
  have hge : 2 ^ 52 ≤ units * 2 ^ (52 - units.log2) := by
    rw [← hfill 52 (by omega)]
    exact Nat.mul_le_mul_right _ hlow
  have hlt : units * 2 ^ (52 - units.log2) < 2 ^ 53 := by
    have h := Nat.mul_lt_mul_of_pos_right hhigh (Nat.two_pow_pos (52 - units.log2))
    rwa [Nat.pow_succ, Nat.mul_right_comm, hfill 52 (by omega)] at h
  refine ⟨52 - units.log2, hlt, ?_, fun _ => hge, ?_⟩
  · show -1074 ≤ _
    omega
  · have hfield : (exponent - (52 - units.log2 : Nat) - -1074).toNat ≤ 2045 := by omega
    have hinfinity : wide.infinityBits = 2045 * 2 ^ 52 + 2 ^ 53 := by decide
    rw [hinfinity]
    exact Nat.add_lt_add_of_le_of_lt (Nat.mul_le_mul_right _ hfield) hlt

/-- Bits of 64-bit numbers are stored as they are. -/
theorem Double.exact_ofExact {r : Exact} (h : wide.encode r < 2 * wide.signBit) :
    (Double.ofExact r).exact = wide.decode (wide.encode r) := by
  rw [ofExact, exact, UInt64.toNat_ofNat_of_lt' h]

theorem encode_finite (f : FloatFormat) (negative : Bool) (units : Nat) (exponent : Int) :
    f.encode (.finite negative units exponent) =
      f.sign negative + f.roundMagnitude units exponent := rfl

/-- A finite 32-bit number keeps its bits when it is widened and narrowed. -/
theorem narrow_encode_wide {negative : Bool} {units : Nat} {exponent : Int}
    (hc : narrow.Canonical units exponent) :
    narrow.encode (Double.ofExact (.finite negative units exponent)).exact =
      narrow.sign negative + narrow.magnitude units exponent := by
  by_cases hunits : units = 0
  · -- Zero is kept in the units of the wider format.
    subst hunits
    have hzero : wide.Canonical 0 wide.minExponent :=
      ⟨by decide, Int.le_refl _, fun h => absurd h (Int.lt_irrefl _), by decide⟩
    have heq : exponent = narrow.minExponent := by
      by_contra hne
      have hleast := hc.least_le
      exact absurd (hc.leading (by omega)) (by decide)
    have hencode : wide.encode (.finite negative 0 exponent) =
        wide.sign negative + wide.magnitude 0 wide.minExponent := rfl
    have hlt := sign_add_lt (Nat.lt_trans hzero.finite wide.infinityBits_lt_signBit) negative
    rw [Double.exact_ofExact (hencode ▸ hlt), hencode, decode_magnitude hzero, encode_finite, heq]
    rfl
  · obtain ⟨j, hwide⟩ := exists_canonical_wide hc hunits
    have hencode : wide.encode (.finite negative units exponent) =
        wide.sign negative + wide.magnitude (units * 2 ^ j) (exponent - j) := by
      rw [encode_finite, ← roundMagnitude_coarser hwide hunits, sub_add_cancel]
    have hlt := sign_add_lt (Nat.lt_trans hwide.finite wide.infinityBits_lt_signBit) negative
    rw [Double.exact_ofExact (hencode ▸ hlt), hencode, decode_magnitude hwide, encode_finite,
      roundMagnitude_finer hc hunits]

/-- The number, with the canonical bits for every "not a number". -/
def Single.normal (x : Single) : Single :=
  if x.exact = .nan then ⟨UInt32.ofNat narrow.nanBits⟩ else x

/-- **Narrowing after widening gives a number back**, up to the bits of a "not a number". -/
theorem Single.ofDouble_ofSingle (x : Single) :
    Single.ofDouble (Double.ofSingle x) = x.normal := by
  have hbits : ∀ {bits : Nat}, x.bits.toNat = bits → x = ⟨UInt32.ofNat bits⟩ := by
    rintro bits rfl
    rw [UInt32.ofNat_toNat]
  rcases @decode_cases narrow x.bits.toNat x.bits.toNat_lt with
    hnan | ⟨negative, hx⟩ | ⟨negative, units, exponent, hc, hx⟩
  · have hexact : x.exact = .nan := hnan
    rw [normal, if_pos hexact, Double.ofSingle, hexact]
    rfl
  · have hexact : x.exact = .infinite negative := by rw [exact, hx, decode_infinite]
    rw [normal, if_neg (by rw [hexact]; exact nofun), Double.ofSingle, hexact, hbits hx]
    cases negative <;> rfl
  · have hexact : x.exact = .finite negative units exponent := by
      rw [exact, hx, decode_magnitude hc]
    rw [normal, if_neg (by rw [hexact]; exact nofun), ofDouble, Double.ofSingle, hexact,
      narrow_encode_wide hc]
    exact (hbits hx).symm

end Interpose.Number
