import Interpose.Proofs.Conversion.Decoding
import Interpose.Signature

/-!
# Equality of values

Equality of values is no equivalence: a "not a number" differs from itself, and so does every value
that one occurs in. Nor is it identity, since the two zeros are equal. It is what the conversions
care about all the same: nothing that is asked of a value before its number is used tells equal
values apart.

* `Value.Agrees` has one rule for every kind of values that can be equal.
* `Value.HasNaN` : a "not a number" occurs in the value, at any depth.

Results:
* `same_iff_agrees`: equality goes by the rules.
* `same_comm`, `same_trans`, `same_self_iff`: it is an equivalence of the values without a
  "not a number" and relates no other ones.
* `accepts_of_agrees`, `acceptsArgs_of_same`, `decode_eq_error_of_agrees`: descriptors, signatures
  and types treat equal values alike.
* **`same_sound`**: all of this together.
-/

namespace Interpose

open Number

/-! ## Numbers -/

namespace Number.Double

variable {x y z : Double}

theorem same_iff : x.same y = true ↔
    x.isNaN = false ∧ y.isNaN = false ∧ (x.bits = y.bits ∨ x.isZero = true ∧ y.isZero = true) := by
  simp [same, and_assoc]

theorem same_symm (h : x.same y = true) : y.same x = true := by
  obtain ⟨hx, hy, hbits⟩ := same_iff.mp h
  exact same_iff.mpr ⟨hy, hx, hbits.imp Eq.symm And.symm⟩

theorem same_trans (hxy : x.same y = true) (hyz : y.same z = true) : x.same z = true := by
  obtain ⟨hx, -, hbits⟩ := same_iff.mp hxy
  obtain ⟨-, hz, hbits'⟩ := same_iff.mp hyz
  refine same_iff.mpr ⟨hx, hz, ?_⟩
  -- numbers of the same bits are both zero or both not
  have hzero {a b : Double} (h : a.bits = b.bits) : a.isZero = b.isZero := by
    simp only [isZero, h]
  rcases hbits with hbits | ⟨hx, hy⟩ <;> rcases hbits' with hbits' | ⟨hy', hz⟩
  · exact .inl (hbits.trans hbits')
  · exact .inr ⟨(hzero hbits).trans hy', hz⟩
  · exact .inr ⟨hx, (hzero hbits').symm.trans hy⟩
  · exact .inr ⟨hx, hz⟩

/-- A number equals itself unless it is not a number. -/
theorem same_self_iff : x.same x = true ↔ x.isNaN = false := by
  simp [same_iff]

end Number.Double

/-! ## Values -/

namespace Value

variable {a b c v : Value} {as bs : List Value}

mutual

/-- Induction on a value: what holds of a list when it holds of its items, and of all that is no
list, holds of every value. -/
theorem item_induction {P : Value → Prop} (list : ∀ items, (∀ v ∈ items, P v) → P (.list items))
    (leaf : ∀ v, v.asList? = none → P v) : ∀ v, P v
  | .list items => list items (items_induction list leaf items)
  | .null => leaf _ rfl
  | .bool _ => leaf _ rfl
  | .int _ => leaf _ rfl
  | .uint _ => leaf _ rfl
  | .float _ => leaf _ rfl
  | .str _ => leaf _ rfl
  | .object _ => leaf _ rfl

/-- The same for the items of a list. -/
theorem items_induction {P : Value → Prop} (list : ∀ items, (∀ v ∈ items, P v) → P (.list items))
    (leaf : ∀ v, v.asList? = none → P v) : ∀ (items : List Value), ∀ v ∈ items, P v
  | [] => nofun
  | v :: rest =>
    List.forall_mem_cons.mpr ⟨item_induction list leaf v, items_induction list leaf rest⟩

end

/-- **The values that are equal**: of one kind, and equal as that kind is. -/
inductive Agrees : Value → Value → Prop
  | null : Agrees .null .null
  | bool (b : Bool) : Agrees (.bool b) (.bool b)
  | int (i : Int64) : Agrees (.int i) (.int i)
  | uint (u : UInt64) : Agrees (.uint u) (.uint u)
  /-- Numbers of the same value, be it by two zeros. -/
  | float {x y : Double} (h : x.same y = true) : Agrees (.float x) (.float y)
  | str (s : String) : Agrees (.str s) (.str s)
  | list {as bs : List Value} (h : List.Forall₂ (fun a b => a.same b = true) as bs) :
    Agrees (.list as) (.list bs)
  /-- One object, by its handle. -/
  | object (h : Handle) : Agrees (.object h) (.object h)

theorem sameItems_iff : ∀ as bs : List Value,
    sameItems as bs = true ↔ List.Forall₂ (fun a b => a.same b = true) as bs
  | [], [] => by simp [sameItems]
  | [], _ :: _ => by simp [sameItems]
  | _ :: _, [] => by simp [sameItems]
  | a :: as, b :: bs => by simp [sameItems, sameItems_iff as bs]

/-- **Equality goes by the rules.** -/
theorem same_iff_agrees : a.same b = true ↔ a.Agrees b := by
  constructor
  · intro h
    cases a <;> cases b <;> simp only [same, Bool.false_eq_true, beq_iff_eq] at h
    case null.null => exact .null
    case bool.bool => exact h ▸ .bool _
    case int.int => exact h ▸ .int _
    case uint.uint => exact h ▸ .uint _
    case float.float => exact .float h
    case str.str => exact h ▸ .str _
    case list.list => exact .list ((sameItems_iff _ _).mp h)
    case object.object => exact h ▸ .object _
  · rintro (_ | b | i | u | h | s | h | o)
    case list => exact (sameItems_iff _ _).mpr h
    case float => exact h
    all_goals simp [same]

/-! ## The laws of equality -/

/-- Equal values are equal the other way round, by induction on the first. -/
theorem same_symm : ∀ {a b : Value}, a.same b = true → b.same a = true := by
  intro a
  induction a using item_induction with
  | list items ih =>
    intro b h
    cases same_iff_agrees.mp h with
    | list hitems =>
      exact same_iff_agrees.mpr
        (.list (((List.forall₂_and_left _ _).mpr ⟨ih, hitems⟩).imp fun a b h => h.1 h.2).flip)
  | leaf a ha =>
    intro b h
    cases same_iff_agrees.mp h with
    | list => cases ha
    | float hsame => exact Double.same_symm hsame
    | _ => exact h

theorem same_comm (a b : Value) : a.same b = b.same a :=
  Bool.eq_iff_iff.mpr ⟨same_symm, same_symm⟩

/-- Lists that are related to a third one, item by item, are related to each other. -/
theorem forall₂_trans {α : Type} {R : α → α → Prop} {xs ys zs : List α}
    (h : List.Forall₂ R xs ys) (h' : List.Forall₂ R ys zs)
    (trans : ∀ x ∈ xs, ∀ y z, R x y → R y z → R x z) : List.Forall₂ R xs zs := by
  induction h generalizing zs with
  | nil => exact h'
  | cons hxy _ ih =>
    cases h' with
    | cons hyz hrest =>
      obtain ⟨hfirst, hothers⟩ := List.forall_mem_cons.mp trans
      exact .cons (hfirst _ _ hxy hyz) (ih hrest hothers)

/-- Values that are equal to a third one are equal, by induction on the first. -/
theorem same_trans : ∀ {a b c : Value}, a.same b = true → b.same c = true → a.same c = true := by
  intro a
  induction a using item_induction with
  | list items ih =>
    intro b c hab hbc
    cases same_iff_agrees.mp hab with
    | list h =>
      cases same_iff_agrees.mp hbc with
      | list h' =>
        exact same_iff_agrees.mpr (.list (forall₂_trans h h' fun x hx y z => ih x hx))
  | leaf a ha =>
    intro b c hab hbc
    cases same_iff_agrees.mp hab with
    | list => cases ha
    | float h =>
      cases same_iff_agrees.mp hbc with
      | float h' => exact Double.same_trans h h'
    | _ => exact hbc

/-- A "not a number" occurs in the value. -/
inductive HasNaN : Value → Prop
  | float {x : Double} (hx : x.isNaN = true) : HasNaN (.float x)
  | item {items : List Value} {v : Value} (hv : v ∈ items) (h : HasNaN v) : HasNaN (.list items)

theorem hasNaN_list {items : List Value} : HasNaN (.list items) ↔ ∃ v ∈ items, v.HasNaN := by
  constructor
  · rintro (_ | ⟨hv, h⟩)
    exact ⟨_, hv, h⟩
  · rintro ⟨v, hv, h⟩
    exact .item hv h

/-- **A value equals itself iff there is no "not a number" in it**, by induction on the value. -/
theorem same_self_iff (v : Value) : v.same v = true ↔ ¬ v.HasNaN := by
  induction v using item_induction with
  | list items ih =>
    have hself : (Value.list items).same (.list items) = true ↔ ∀ v ∈ items, v.same v = true :=
      (sameItems_iff items items).trans List.forall₂_same
    simp only [hself, hasNaN_list, not_exists, not_and]
    exact forall₂_congr ih
  | leaf v hv =>
    cases v with
    | list => cases hv
    | float x =>
      have hnan : HasNaN (.float x) ↔ x.isNaN = true := ⟨fun | .float hx => hx, .float⟩
      rw [hnan, Bool.not_eq_true]
      exact Double.same_self_iff
    | _ => exact ⟨fun _ => nofun, fun _ => same_iff_agrees.mpr (by constructor)⟩

/-! ## What does not tell equal values apart -/

theorem typeName_of_agrees (h : a.Agrees b) : a.typeName = b.typeName := by
  cases h <;> rfl

/-- A test that does not tell related items apart passes all of both lists or not. -/
theorem all_eq_of_forall₂ {α : Type} {R : α → α → Prop} {xs ys : List α} {p : α → Bool}
    (h : List.Forall₂ R xs ys) (hp : ∀ x y, R x y → p x = p y) : xs.all p = ys.all p := by
  induction h with
  | nil => rfl
  | cons hxy _ ih => simp only [List.all_cons, hp _ _ hxy, ih]

/-- **A descriptor accepts both of two equal values or neither**, by induction on the descriptor. -/
theorem accepts_of_agrees (h : a.Agrees b) (d : Desc) : d.accepts a = d.accepts b := by
  induction d generalizing a b with
  | list item ih =>
    cases h with
    | list hitems => exact all_eq_of_forall₂ hitems fun x y hxy => ih (same_iff_agrees.mp hxy)
    | _ => rfl
  | optional item ih =>
    cases h with
    | null => rfl
    | bool | int | uint | str | object => rfl
    | float h => exact ih (.float h)
    | list h => exact ih (.list h)
  | _ => cases h <;> rfl

/-- A type finds the same fault with equal values as wholes: their shapes, their names and their
whole numbers are the same. -/
theorem fault?_of_agrees (h : a.Agrees b) (t : HostType) : t.fault? a = t.fault? b := by
  have hfits : t.fits a = t.fits b := by cases h <;> cases t <;> rfl
  have hwhole : a.asWhole? = b.asWhole? := by cases h <;> rfl
  simp only [HostType.fault?, HostType.mismatch, hfits, hwhole, typeName_of_agrees h]

/-- A check that fails alike for related items fails alike for the lists. -/
theorem mapM_eq_error_of_forall₂ {α β ε : Type} {g : α → Except ε β} {xs ys : List α}
    (h : List.Forall₂ (fun x y => ∀ e, g x = .error e ↔ g y = .error e) xs ys) (e : ε) :
    xs.mapM g = .error e ↔ ys.mapM g = .error e := by
  induction h with
  | nil => rfl
  | @cons x y xs ys hxy _ ih =>
    rw [List.mapM_cons, List.mapM_cons]
    cases hx : g x with
    | error e' => rw [(hxy e').mp hx]; simp [bind, Except.bind]
    | ok x' =>
      cases hy : g y with
      | error e' =>
        rw [(hxy e').mpr hy] at hx
        cases hx
      | ok y' =>
        simp only [bind, Except.bind]
        cases hxs : xs.mapM g <;> cases hys : ys.mapM g <;> simp_all [pure, Except.pure]

/-- **Equal values fail to decode alike**, by induction on the type. -/
theorem decode_eq_error_of_agrees (h : a.Agrees b) (t : HostType) (e : ConversionError) :
    t.decode a = .error e ↔ t.decode b = .error e := by
  induction t generalizing a b e with
  | list item ih =>
    cases h with
    | list hitems =>
      exact mapM_eq_error_of_forall₂ (hitems.imp fun x y hxy => ih (same_iff_agrees.mp hxy)) e
    | _ => rfl
  | option item ih =>
    have hnull : a.isNull = b.isNull := by cases h <;> rfl
    rw [decode_option_eq_error, decode_option_eq_error, hnull, ih h e]
  | _ => rw [decode_leaf_eq_error rfl, decode_leaf_eq_error rfl, fault?_of_agrees h]

/-- Equal values both decode, or fail with one error. -/
theorem decode_of_agrees (h : a.Agrees b) (t : HostType) :
    (t.Decodes a ∧ t.Decodes b) ∨ ∃ e, t.decode a = .error e ∧ t.decode b = .error e := by
  by_cases ha : t.Decodes a
  · refine .inl ⟨ha, ?_⟩
    by_contra hb
    obtain ⟨e, he⟩ := not_decodes_iff.mp hb
    exact not_decodes_iff.mpr ⟨e, (decode_eq_error_of_agrees h t e).mpr he⟩ ha
  · obtain ⟨e, he⟩ := not_decodes_iff.mp ha
    exact .inr ⟨e, he, (decode_eq_error_of_agrees h t e).mp he⟩

/-- **A signature accepts both of two lists of equal arguments or neither.** -/
theorem acceptsArgs_of_same (h : List.Forall₂ (fun a b => a.same b = true) as bs)
    (s : Signature) : s.acceptsArgs as = s.acceptsArgs bs := by
  have hpairs (params : List Param) :
      ((params.zip as).all fun pa => pa.1.type.accepts pa.2) =
        (params.zip bs).all fun pa => pa.1.type.accepts pa.2 := by
    induction h generalizing params with
    | nil => rfl
    | cons hab _ ih =>
      cases params with
      | nil => rfl
      | cons q params =>
        simp only [List.zip_cons_cons, List.all_cons, ih,
          accepts_of_agrees (same_iff_agrees.mp hab)]
  simp only [Signature.acceptsArgs, Param.accept, hpairs, h.length_eq]

/-- **Equality of values is sound.** It is symmetric and transitive, a value equals itself iff there
is no "not a number" in it, and objects are equal by their handles. Of two equal values, every
descriptor accepts both or neither, and every type decodes both or fails with the same error; of
two lists of equal arguments, every signature accepts both or neither. -/
theorem same_sound (a b : Value) :
    a.same b = b.same a ∧
    (∀ c, a.same b = true → b.same c = true → a.same c = true) ∧
    (a.same a = true ↔ ¬ a.HasNaN) ∧
    (∀ g h : Handle, (Value.object g).same (.object h) = true ↔ g = h) ∧
    (a.same b = true → (∀ d : Desc, d.accepts a = d.accepts b) ∧
      ∀ t : HostType, (t.Decodes a ∧ t.Decodes b) ∨
        ∃ e, t.decode a = .error e ∧ t.decode b = .error e) ∧
    ∀ as bs, List.Forall₂ (fun a b => a.same b = true) as bs →
      ∀ s : Signature, s.acceptsArgs as = s.acceptsArgs bs := by
  refine ⟨same_comm a b, fun c => same_trans, same_self_iff a, fun g h => ?_, fun h => ?_,
    fun as bs => acceptsArgs_of_same⟩
  · simp [same]
  · have hagrees := same_iff_agrees.mp h
    exact ⟨accepts_of_agrees hagrees, decode_of_agrees hagrees⟩

/-- The two zeros are equal in a list, too, and are two values. -/
theorem same_sound_zeros :
    let plus : Value := .list [.float ⟨0⟩, .null]
    let minus : Value := .list [.float ⟨0x8000000000000000⟩, .null]
    plus.same minus = true ∧ plus ≠ minus ∧ minus.same plus = true ∧ ¬ plus.HasNaN ∧
      (∀ d : Desc, d.accepts plus = d.accepts minus) ∧
      ∀ t : HostType, (t.Decodes plus ∧ t.Decodes minus) ∨
        ∃ e, t.decode plus = .error e ∧ t.decode minus = .error e := by
  intro plus minus
  have hsame : plus.same minus = true := by decide
  obtain ⟨hcomm, htrans, hself, -, halike, -⟩ := same_sound plus minus
  have hback : minus.same plus = true := hcomm.symm.trans hsame
  refine ⟨hsame, by simp [plus, minus], hback, hself.mp (htrans plus hsame hback), ?_⟩
  exact halike hsame

end Value

end Interpose
