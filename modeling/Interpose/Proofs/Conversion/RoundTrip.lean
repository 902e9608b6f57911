import Interpose.Proofs.Conversion.Decoding
import Interpose.Proofs.Conversion.Widening

/-!
# Writing a host value and reading it back

Null is written for unit, for an absent option and for the null value alike, so an option of such a
value is lost: it is read back as absent. Nothing else is lost but the bits of a 32-bit "not a
number".

* `HostType.settle` : what is read back, for every value of every type.
* `HostType.normal` : the value with the canonical bits for every "not a number" of 32 bits.
* `HostType.Alike` : the values that are equal up to the bits of a "not a number" and the
  allocations of objects.
* `HostType.keeps` : no option in the type is applied directly to a type with a null.

Results:
* `decode_written` : a written value is read back as what it settles to.
* `hasNull_iff` : the types with a null are unit, values and options.
* `settle_of_keeps`, `keeps_of_settle` : a type gives back all its values iff it keeps them.
* `settle_of_decode` : what was read from any value is given back, whatever the type.
* **`encode_roundTrip`** : all of this together.
-/

namespace Interpose

open Number

/-! ## What is read back -/

namespace HostType

/-- The value that is written for a host value. -/
def written (t : HostType) (x : t.Carrier) (supply : Supply) : Value := ((t.encode x).run supply).1

/-- Is null written for the host value? -/
def isAbsent : (t : HostType) → t.Carrier → Bool
  | .unit, _ => true
  | .value, v => v.isNull
  | .option _, none => true
  | .option item, some x => item.isAbsent x
  | _, _ => false

/-- What a host value is once it has been written and read back. -/
def settle : (t : HostType) → t.Carrier → t.Carrier
  | .single, x => x.normal
  | .list item, xs => xs.map item.settle
  | .option _, none => none
  | .option item, some x => if item.isAbsent x then none else some (item.settle x)
  | .integer _, n => n
  | .double, x => x
  | .bool, b => b
  | .unit, u => u
  | .string, s => s
  | .value, v => v
  | .object _, content => content

/-- The host value with the canonical bits for every 32-bit "not a number" in it. -/
def normal : (t : HostType) → t.Carrier → t.Carrier
  | .single, x => x.normal
  | .list item, xs => xs.map item.normal
  | .option item, x => x.map item.normal
  | .integer _, n => n
  | .double, x => x
  | .bool, b => b
  | .unit, u => u
  | .string, s => s
  | .value, v => v
  | .object _, content => content

end HostType

/-- Equality of values up to the bits of a "not a number" and the allocations of objects. -/
inductive Value.Alike : Value → Value → Prop
  | same (v : Value) : Alike v v
  | nan {x y : Double} (hx : x.exact = .nan) (hy : y.exact = .nan) : Alike (.float x) (.float y)
  | list {vs ws : List Value} (h : List.Forall₂ Alike vs ws) : Alike (.list vs) (.list ws)
  | object {a b : Handle} (htype : a.type = b.type) (hcontent : a.content = b.content) :
    Alike (.object a) (.object b)

/-- Equality of host values up to the bits of a "not a number". Objects are equal when they hold
the same. -/
def HostType.Alike : (t : HostType) → t.Carrier → t.Carrier → Prop
  | .single, x, y => x = y ∨ (x.exact = .nan ∧ y.exact = .nan)
  | .double, x, y => x = y ∨ (x.exact = .nan ∧ y.exact = .nan)
  | .value, v, w => v.Alike w
  | .list item, xs, ys => List.Forall₂ item.Alike xs ys
  | .option item, x, y => Option.Rel item.Alike x y
  | .integer _, m, n => m = n
  | .bool, a, b => a = b
  | .unit, a, b => a = b
  | .string, a, b => a = b
  | .object _, a, b => a = b

open HostType

variable {t item : HostType}

/-! ## Writing lists and objects -/

/-- Writing a list writes its items, one after the other. -/
theorem encode_items (P : item.Carrier → Value → Prop)
    (h : ∀ x supply, P x (item.written x supply)) : ∀ (xs : List item.Carrier) (supply : Supply),
      List.Forall₂ P xs ((xs.mapM item.encode).run supply).1
  | [], _ => .nil
  | x :: xs, supply => by
    rw [List.mapM_cons]
    exact .cons (h x supply) (encode_items P h xs ((item.encode x).run supply).2)

theorem written_list (item : HostType) (xs : List item.Carrier) (supply : Supply) :
    (list item).written xs supply = .list ((xs.mapM item.encode).run supply).1 := rfl

/-- Null is written exactly for what is absent. -/
theorem isNull_written (t : HostType) (x : t.Carrier) (supply : Supply) :
    (t.written x supply).isNull = t.isAbsent x := by
  induction t with
  | integer k =>
    show (encodeInteger k x).isNull = false
    unfold encodeInteger
    split <;> rfl
  | option item ih =>
    cases x with
    | none => rfl
    | some x => exact ih x
  | _ => rfl

/-- The carrier of its sign holds every integer. -/
theorem asWhole?_encodeInteger (k : IntegerType) (n : k.Element) :
    (encodeInteger k n).asWhole? = some n.val := by
  obtain ⟨n, hlow, hhigh⟩ := n
  cases hs : k.isSigned with
  | true =>
    have hbounds : -2 ^ 63 ≤ n ∧ n < 2 ^ 63 := by
      cases k <;> simp_all [IntegerType.low, IntegerType.high, IntegerType.width, power_eq,
        IntegerType.isSigned] <;> omega
    simp [encodeInteger, hs, Value.asWhole?, Int64.toInt_ofInt_of_le hbounds.1 hbounds.2]
  | false =>
    have hbounds : 0 ≤ n ∧ n < 2 ^ 64 := by
      cases k <;> simp_all [IntegerType.low, IntegerType.high, IntegerType.width, power_eq,
        IntegerType.isSigned] <;> omega
    have hnat : n.toNat < 2 ^ 64 := by omega
    simp [encodeInteger, hs, Value.asWhole?, UInt64.toNat_ofNat_of_lt' hnat, hbounds.1]

/-- An integer is read back. -/
theorem decodeInteger_encodeInteger (k : IntegerType) (n : k.Element) :
    decodeInteger k (encodeInteger k n) = .ok n := by
  simp [decodeInteger, asWhole?_encodeInteger, n.property]

/-- **A written value is read back as what it settles to**, by induction on the type. -/
theorem decode_written (t : HostType) (x : t.Carrier) (supply : Supply) :
    t.decode (t.written x supply) = .ok (t.settle x) := by
  induction t generalizing supply with
  | integer k => exact decodeInteger_encodeInteger k x
  | single => exact congrArg Except.ok (Single.ofDouble_ofSingle x)
  | list item ih =>
    rw [written_list, decode_list, mapM_eq_ok_iff]
    exact List.forall₂_map_right_iff.mpr
      (encode_items (fun x w => item.decode w = .ok (item.settle x)) ih x supply).flip
  | option item ih =>
    cases x with
    | none => rfl
    | some x =>
      have hnull : (item.written x supply).isNull = item.isAbsent x := isNull_written item x supply
      show (option item).decode (item.written x supply) = _
      cases habsent : item.isAbsent x with
      | true => rw [decode_option_of_isNull (hnull.trans habsent), settle, habsent]; rfl
      | false =>
        rw [decode_option_of_not_isNull (hnull.trans habsent), ih, settle, habsent]
        rfl
  | object type => exact congrArg (orMismatch _ _) (if_pos rfl)
  | _ => rfl

theorem accepts_written (t : HostType) (x : t.Carrier) (supply : Supply) :
    t.desc.accepts (t.written x supply) = true :=
  accepts_of_decodes ⟨_, decode_written t x supply⟩

/-! ## What is given back -/

namespace HostType

/-- Are there host values of the type for which null is written? -/
def hasNull : HostType → Bool
  | .unit | .value | .option _ => true
  | _ => false

/-- No option in the type is applied directly to a type with a null. -/
def keeps : HostType → Bool
  | .list item => item.keeps
  | .option item => !item.hasNull && item.keeps
  | _ => true

/-- The host value is read back from what is written for it. -/
def GivesBack (t : HostType) (x : t.Carrier) : Prop :=
  ∀ supply, ∃ y, t.decode (t.written x supply) = .ok y ∧ t.Alike y x

end HostType

theorem hasNull_iff (t : HostType) :
    t.hasNull = true ↔ ∃ x supply, (t.written x supply).isNull = true := by
  simp only [isNull_written]
  constructor
  · intro h
    cases t with
    | unit => exact ⟨(), 0, rfl⟩
    | value => exact ⟨.null, 0, rfl⟩
    | option item => exact ⟨none, 0, rfl⟩
    | _ => cases h
  · rintro ⟨x, -, h⟩
    cases t with
    | unit | value | option => rfl
    | _ => cases h

theorem keeps_option : (option item).keeps = true ↔ item.hasNull = false ∧ item.keeps = true := by
  simp [keeps]

theorem not_isAbsent (ht : t.hasNull = false) (x : t.Carrier) : t.isAbsent x = false := by
  cases t with
  | unit | value | option => cases ht
  | _ => rfl

theorem Single.normal_alike (x : Single) : single.Alike x.normal x := by
  unfold Single.normal
  split
  next hx => exact .inr ⟨by decide, hx⟩
  next => exact .inl rfl

theorem Single.normal_normal (x : Single) : x.normal.normal = x.normal := by
  by_cases hx : x.exact = .nan
  · have hcanonical : x.normal = ⟨UInt32.ofNat FloatFormat.narrow.nanBits⟩ := if_pos hx
    rw [hcanonical]
    exact if_pos (by decide)
  · have hsame : x.normal = x := if_neg hx
    rw [hsame, hsame]

theorem normal_normal (t : HostType) (x : t.Carrier) : t.normal (t.normal x) = t.normal x := by
  induction t with
  | single => exact Single.normal_normal x
  | list item ih =>
    show (x.map item.normal).map item.normal = x.map item.normal
    rw [List.map_map]
    exact List.map_congr_left fun y _ => ih y
  | option item ih =>
    cases x with
    | none => rfl
    | some x => exact congrArg some (ih x)
  | _ => rfl

/-- Canonical bits change nothing that is looked at. -/
theorem normal_alike (t : HostType) (x : t.Carrier) : t.Alike (t.normal x) x := by
  induction t with
  | single => exact Single.normal_alike x
  | double => exact .inl rfl
  | value => exact .same x
  | list item ih =>
    show List.Forall₂ item.Alike (x.map item.normal) x
    rw [List.forall₂_map_left_iff, List.forall₂_same]
    exact fun y _ => ih y
  | option item ih =>
    cases x with
    | none => exact .none
    | some x => exact .some (ih x)
  | _ => rfl

theorem settle_some {x : item.Carrier} (hx : item.isAbsent x = false) :
    (option item).settle (some x) = some (item.settle x) :=
  if_neg (by rw [hx]; exact Bool.false_ne_true)

/-- A type that keeps its values gives back each of them, by induction on the type. -/
theorem settle_of_keeps (ht : t.keeps = true) (x : t.Carrier) : t.settle x = t.normal x := by
  induction t with
  | list item ih => exact List.map_congr_left fun y _ => ih ht y
  | option item ih =>
    obtain ⟨hnull, hitem⟩ := keeps_option.mp ht
    cases x with
    | none => rfl
    | some x =>
      rw [settle_some (not_isAbsent hnull x), ih hitem]
      rfl
  | _ => rfl

/-- A type that gives back all its values keeps them, by induction on the type. -/
theorem keeps_of_settle (h : ∀ x, t.Alike (t.settle x) x) : t.keeps = true := by
  induction t with
  | list item ih =>
    refine ih fun x => ?_
    have hsingleton : List.Forall₂ item.Alike [item.settle x] [x] := h [x]
    cases hsingleton with
    | cons hx _ => exact hx
  | option item ih =>
    have hsome : ∀ x, item.isAbsent x = false ∧ item.Alike (item.settle x) x := by
      intro x
      have hx : Option.Rel item.Alike ((option item).settle (some x)) (some x) := h (some x)
      cases habsent : item.isAbsent x with
      | true =>
        -- What is absent would be read back as no value at all.
        have hlost : (option item).settle (some x) = none := if_pos habsent
        rw [hlost] at hx
        cases hx
      | false =>
        rw [settle_some habsent] at hx
        cases hx with
        | some hx => exact ⟨rfl, hx⟩
    have hnull : item.hasNull = false := by
      by_contra hnull
      obtain ⟨x, supply, hx⟩ := (hasNull_iff item).mp (Bool.not_eq_false _ ▸ hnull)
      rw [isNull_written, (hsome x).1] at hx
      cases hx
    exact keeps_option.mpr ⟨hnull, ih fun x => (hsome x).2⟩
  | _ => rfl

/-! ## What was read before -/

/-- What is read from a value is absent iff the value is null. -/
theorem isAbsent_of_decode {v : Value} {x : t.Carrier} (h : t.decode v = .ok x) :
    t.isAbsent x = v.isNull := by
  induction t generalizing v with
  | value =>
    cases h
    rfl
  | unit => exact (fits_of_decodes ⟨x, h⟩).symm
  | option item ih =>
    cases x with
    | none => exact (decode_option_eq_none.mp h).symm
    | some x => exact ih (decode_option_eq_some.mp h).2
  | _ =>
    have hfits := fits_of_decodes ⟨x, h⟩
    cases v with
    | null => cases hfits
    | _ => rfl

/-- **What was read from any value is given back**, whatever the type, by induction on it. -/
theorem settle_of_decode {v : Value} {x : t.Carrier} (h : t.decode v = .ok x) :
    t.settle x = t.normal x := by
  induction t generalizing v with
  | list item ih =>
    obtain ⟨items, rfl, -⟩ := (decodes_list item v).mp ⟨x, h⟩
    have hitems : List.Forall₂ (fun y w => item.settle y = item.normal y ∧ item.decode w = .ok y)
        x items := ((mapM_eq_ok_iff _ _ _).mp h).flip.imp fun y w hw => ⟨ih hw, hw⟩
    exact List.map_congr_left ((List.forall₂_and_left _ _).mp hitems).1
  | option item ih =>
    cases x with
    | none => rfl
    | some x =>
      obtain ⟨hv, hx⟩ := decode_option_eq_some.mp h
      rw [settle_some ((isAbsent_of_decode hx).trans hv), ih hx]
      rfl
  | _ => rfl

/-! ## The round trip -/

/-- A value that settles to its canonical form is given back. -/
theorem givesBack_of_settle {x : t.Carrier} (h : t.settle x = t.normal x) : t.GivesBack x := by
  intro supply
  refine ⟨t.settle x, decode_written t x supply, ?_⟩
  rw [h]
  exact normal_alike t x

theorem settle_of_givesBack {x : t.Carrier} (h : t.GivesBack x) : t.Alike (t.settle x) x := by
  obtain ⟨y, hy, halike⟩ := h 0
  rw [decode_written] at hy
  cases hy
  exact halike

/-- **The round trip of a host value.** Whatever is written for a value of a type, the descriptor of
the type accepts it. The type gives back all its values iff no option in it is applied directly to
a type with a null, which are unit, values and options. What was read from any value is given back,
whatever the type. -/
theorem encode_roundTrip (t : HostType) :
    (∀ x supply, t.desc.accepts (t.written x supply) = true) ∧
    ((∀ x, t.GivesBack x) ↔ t.keeps = true) ∧
    (∀ item : HostType, item.hasNull = true ↔
      ∃ x supply, (item.written x supply).isNull = true) ∧
    ∀ v x, t.decode v = .ok x → t.GivesBack x := by
  refine ⟨fun x supply => ?_, ⟨fun h => ?_, fun ht x => ?_⟩, hasNull_iff, fun v x h => ?_⟩
  · exact accepts_written t x supply
  · exact keeps_of_settle fun x => settle_of_givesBack (h x)
  · exact givesBack_of_settle (settle_of_keeps ht x)
  · exact givesBack_of_settle (settle_of_decode h)

/-- A list of optional options does not keep its values, but gives back those that were read. -/
theorem encode_roundTrip_nested :
    let nested : HostType := .list (.option (.option .single))
    nested.keeps = false ∧ ¬ nested.GivesBack [some none] ∧
    ∃ x, nested.decode (.list [.null, .uint 3]) = .ok x ∧ nested.GivesBack x := by
  intro nested
  obtain ⟨-, -, -, hgives⟩ := encode_roundTrip nested
  refine ⟨rfl, ?_, _, rfl, hgives (.list [.null, .uint 3]) _ rfl⟩
  intro h
  cases settle_of_givesBack h with
  | cons h _ => cases h

end Interpose
