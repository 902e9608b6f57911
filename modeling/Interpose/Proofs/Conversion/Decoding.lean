import Interpose.HostType
import Mathlib.Data.List.Forall2

/-!
# Decoding and the descriptors of types

Whether a value decodes as a host type is said twice: by the descriptor of the type, which looks at
shapes alone, and by decoding itself, which also looks at ranges and at the types of objects. The
two are compared here, and the error of a value that does not decode is traced to its component.

* A component of a type and a value is reached by a path: an item of a list by its position, what
  an option holds by zero.
* The culprit is the leftmost of the innermost components that do not decode.

Results:
* `decode_list_eq_error`, `decode_option_eq_error`, `decode_leaf_eq_error`: the ways in which a
  value does not decode.
* `accepts_of_decodes`, `outOfRange_of_accepts`: the descriptor accepts what decodes, and what it
  accepts fails by its range alone, where types are told apart by their names;
  `mismatch_of_namesake`: it does not where they are not.
* `exists_culprit`, `Culprit.unique`: there is one culprit.
* **`decode_agreement`**: all of this together.
-/

namespace Interpose

open Number

/-! ## Checks in turn -/

theorem bind_eq_error_iff {ε α β : Type} {x : Except ε α} {f : α → Except ε β} {e : ε} :
    x.bind f = .error e ↔ x = .error e ∨ ∃ a, x = .ok a ∧ f a = .error e := by
  cases x <;> simp [Except.bind]

theorem bind_eq_ok_iff {ε α β : Type} {x : Except ε α} {f : α → Except ε β} {b : β} :
    x.bind f = .ok b ↔ ∃ a, x = .ok a ∧ f a = .ok b := by
  cases x <;> simp [Except.bind]

/-- A check of a list succeeds with the successes of its items. -/
theorem mapM_eq_ok_iff {α β ε : Type} (g : α → Except ε β) : ∀ (l : List α) (xs : List β),
    l.mapM g = .ok xs ↔ List.Forall₂ (fun a x => g a = .ok x) l xs
  | [], xs => by
    rw [List.mapM_nil, List.forall₂_nil_left_iff]
    exact ⟨fun h => (Except.ok.inj h).symm, fun h => by rw [h]; rfl⟩
  | a :: l, xs => by
    rw [List.mapM_cons, List.forall₂_cons_left_iff]
    have ih := mapM_eq_ok_iff g l
    cases ha : g a with
    | error e => simp [bind, Except.bind]
    | ok x =>
      simp only [bind, Except.bind, Except.ok.injEq, exists_and_left, exists_eq_left', ← ih]
      cases l.mapM g with
      | error e => simp
      | ok ys => simp [pure, Except.pure, eq_comm]

/-- A check of a list fails as its first item that fails. -/
theorem mapM_eq_error_iff {α β ε : Type} (g : α → Except ε β) (e : ε) : ∀ l : List α,
    l.mapM g = .error e ↔ ∃ before a after, l = before ++ a :: after ∧
      (∀ b ∈ before, ∃ x, g b = .ok x) ∧ g a = .error e
  | [] => by simp [pure, Except.pure]
  | a :: l => by
    rw [List.mapM_cons]
    have ih := mapM_eq_error_iff g e l
    cases ha : g a with
    | error e' =>
      constructor
      · intro h
        obtain rfl : e' = e := Except.error.inj h
        exact ⟨[], a, l, rfl, nofun, ha⟩
      · rintro ⟨before, b, after, hl, hbefore, hb⟩
        cases before with
        | nil =>
          obtain ⟨rfl, rfl⟩ := List.cons.inj hl
          obtain rfl : e' = e := Except.error.inj (ha.symm.trans hb)
          rfl
        | cons c before =>
          obtain ⟨rfl, rfl⟩ := List.cons.inj hl
          obtain ⟨x, hx⟩ := hbefore a List.mem_cons_self
          cases ha.symm.trans hx
    | ok x =>
      have hrest : (bind (.ok x) fun y => bind (l.mapM g) fun ys => pure (y :: ys)) = .error e ↔
          l.mapM g = .error e := by
        cases l.mapM g <;> simp [bind, Except.bind, pure, Except.pure]
      rw [hrest, ih]
      constructor
      · rintro ⟨before, b, after, rfl, hbefore, hb⟩
        exact ⟨a :: before, b, after, rfl, List.forall_mem_cons.mpr ⟨⟨x, ha⟩, hbefore⟩, hb⟩
      · rintro ⟨before, b, after, hl, hbefore, hb⟩
        cases before with
        | nil =>
          obtain ⟨rfl, rfl⟩ := List.cons.inj hl
          cases ha.symm.trans hb
        | cons c before =>
          obtain ⟨rfl, rfl⟩ := List.cons.inj hl
          exact ⟨before, b, after, rfl, (List.forall_mem_cons.mp hbefore).2, hb⟩

/-! ## The ways in which a value does not decode -/

namespace HostType

/-- Does the value decode as the type? -/
def Decodes (t : HostType) (v : Value) : Prop := ∃ x, t.decode v = .ok x

/-- Are the values of the type without parts that are decoded apart? -/
def isLeaf : HostType → Bool
  | .list _ | .option _ => false
  | _ => true

/-- Has the value the outer shape that the type asks for? -/
def fits : HostType → Value → Bool
  | .integer _, v => v.asWhole?.isSome
  | .single, v | .double, v => v.asDouble?.isSome
  | .bool, v => v.asBool?.isSome
  | .unit, v => v.isNull
  | .string, v => v.asStr?.isSome
  | .value, _ => true
  | .object type, v => (v.content? type).isSome
  | .list _, v => v.asList?.isSome
  | .option _, _ => true

/-- The error that a value has as a whole, whatever its parts are: its shape, or else the range of
an integer. -/
def fault? (t : HostType) (v : Value) : Option ConversionError :=
  if t.fits v then
    match t, v.asWhole? with
    | .integer k, some n => if k.holds n then none else some (.outOfRange k.name (toString n))
    | _, _ => none
  else some (t.mismatch v)

end HostType

open HostType

variable {t item u : HostType} {v w : Value} {e : ConversionError}

theorem not_decodes_iff : ¬ t.Decodes v ↔ ∃ e, t.decode v = .error e := by
  unfold Decodes
  cases t.decode v <;> simp

/-- A type without parts does not decode a value iff the value is at fault as a whole. -/
theorem decode_leaf_eq_error (ht : t.isLeaf = true) :
    t.decode v = .error e ↔ t.fault? v = some e := by
  cases t with
  | integer k =>
    cases hn : v.asWhole? with
    | none => simp [decode, decodeInteger, fault?, fits, hn]
    | some n => by_cases hk : k.holds n <;> simp [decode, decodeInteger, fault?, fits, hn, hk]
  | single => cases hx : v.asDouble? <;> simp [decode, orMismatch, fault?, fits, hx, Except.map]
  | double => cases hx : v.asDouble? <;> simp [decode, orMismatch, fault?, fits, hx]
  | bool => cases hx : v.asBool? <;> simp [decode, orMismatch, fault?, fits, hx]
  | unit => cases hx : v.isNull <;> simp [decode, fault?, fits, hx]
  | string => cases hx : v.asStr? <;> simp [decode, orMismatch, fault?, fits, hx]
  | value => simp [decode, fault?, fits]
  | object type => cases hx : v.content? type <;> simp [decode, orMismatch, fault?, fits, hx]
  | list _ | option _ => cases ht

@[simp] theorem decode_list (item : HostType) (items : List Value) :
    (list item).decode (.list items) = items.mapM item.decode := rfl

/-- A list does not decode iff the value is no list, or as its first item that does not decode. -/
theorem decode_list_eq_error : (list item).decode v = .error e ↔
    (list item).fault? v = some e ∨ ∃ before w after, v = .list (before ++ w :: after) ∧
      (∀ b ∈ before, item.Decodes b) ∧ item.decode w = .error e := by
  cases v with
  | list items =>
    rw [decode_list, mapM_eq_error_iff]
    simp only [fault?, fits, Value.asList?, Option.isSome_some, if_true, Value.list.injEq]
    exact ⟨fun h => .inr h, fun h => h.resolve_left nofun⟩
  | _ => simp [decode, fault?, fits, Value.asList?]

/-- Null is the absent option. -/
theorem decode_option_of_isNull (hv : v.isNull = true) : (option item).decode v = .ok none :=
  if_pos hv

/-- Any other value is read as what the option holds. -/
theorem decode_option_of_not_isNull (hv : v.isNull = false) :
    (option item).decode v = (item.decode v).map some :=
  if_neg (by rw [hv]; exact Bool.false_ne_true)

/-- An option does not decode iff what it holds does not. -/
theorem decode_option_eq_error : (option item).decode v = .error e ↔
    v.isNull = false ∧ item.decode v = .error e := by
  cases hv : v.isNull with
  | true => simp [decode_option_of_isNull hv]
  | false =>
    rw [decode_option_of_not_isNull hv]
    cases item.decode v <;> simp [Except.map]

/-- What an option holds is read from a value that is not null. -/
theorem decode_option_eq_some {x : item.Carrier} :
    (option item).decode v = .ok (some x) ↔ v.isNull = false ∧ item.decode v = .ok x := by
  cases hv : v.isNull with
  | true => simp [decode_option_of_isNull hv]
  | false =>
    rw [decode_option_of_not_isNull hv]
    cases item.decode v <;> simp [Except.map]

theorem decode_option_eq_none :
    (option item).decode v = .ok none ↔ v.isNull = true := by
  cases hv : v.isNull with
  | true => simp [decode_option_of_isNull hv]
  | false =>
    rw [decode_option_of_not_isNull hv]
    cases item.decode v <;> simp [Except.map]

/-! ## What the descriptor accepts -/

/-- The types of the objects that the type has in it. -/
def HostType.objects : HostType → List Tag
  | .object type => [type]
  | .list item | .option item => item.objects
  | _ => []

/-- An object of the type occurs in the value. -/
inductive Value.Holds (type : Tag) : Value → Prop
  | object {h : Handle} (ht : h.type = type) : Holds type (.object h)
  | item {items : List Value} {v : Value} (hv : v ∈ items) (h : Holds type v) :
    Holds type (.list items)

/-- No object in the value is of a type that shares its name with another type in `t`. -/
def NamesApart (t : HostType) (v : Value) : Prop :=
  ∀ a ∈ t.objects, ∀ b, v.Holds b → a.name = b.name → a = b

theorem accepts_list (item : Desc) (v : Value) :
    (Desc.list item).accepts v = true ↔
      ∃ items, v = .list items ∧ ∀ w ∈ items, item.accepts w = true := by
  cases v <;> simp [Desc.accepts]

theorem accepts_optional (item : Desc) (v : Value) :
    (Desc.optional item).accepts v = true ↔ v.isNull = true ∨ item.accepts v = true := by
  cases v <;> simp [Desc.accepts, Value.isNull]

/-- A type without parts is accepted by its shape; the descriptor of an object looks at the name of
its type alone. -/
theorem accepts_leaf (ht : t.isLeaf = true) (hobject : t.objects = []) (v : Value) :
    t.desc.accepts v = t.fits v := by
  cases t with
  | integer k => cases k <;> cases v <;> rfl
  | object type => cases hobject
  | list _ | option _ => cases ht
  | _ => cases v <;> rfl

/-- What decodes has the outer shape that the type asks for. -/
theorem fits_of_decodes (h : t.Decodes v) : t.fits v = true := by
  obtain ⟨x, hx⟩ := h
  by_contra hfits
  have hfault : t.fault? v = some (t.mismatch v) := if_neg hfits
  have herror : t.decode v = .error (t.mismatch v) := by
    cases t with
    | list item => exact decode_list_eq_error.mpr (.inl hfault)
    | option item => exact absurd rfl hfits
    | _ => exact (decode_leaf_eq_error rfl).mpr hfault
  cases hx.symm.trans herror

theorem content?_isSome_iff (type : Tag) (v : Value) :
    (v.content? type).isSome = true ↔ ∃ h, v = .object h ∧ h.type = type := by
  unfold Value.content?
  cases v with
  | object h => by_cases ht : h.type = type <;> simp [Value.asObject?, ht]
  | _ => simp [Value.asObject?]

theorem accepts_object (name : String) (v : Value) :
    (Desc.object name).accepts v = true ↔ ∃ h, v = .object h ∧ h.type.name = name := by
  cases v <;> simp [Desc.accepts]

theorem decodes_list (item : HostType) (v : Value) :
    (list item).Decodes v ↔ ∃ items, v = .list items ∧ ∀ w ∈ items, item.Decodes w := by
  constructor
  · rintro ⟨xs, hxs⟩
    have hfits := fits_of_decodes ⟨xs, hxs⟩
    cases v with
    | list items =>
      refine ⟨items, rfl, fun w hw => ?_⟩
      have hitems : List.Forall₂ (fun w x => item.Decodes w ∧ item.decode w = .ok x) items xs :=
        ((mapM_eq_ok_iff _ _ _).mp hxs).imp fun w x hx => ⟨⟨x, hx⟩, hx⟩
      exact ((List.forall₂_and_left _ _).mp hitems).1 w hw
    | _ => cases hfits
  · rintro ⟨items, rfl, hall⟩
    by_contra hno
    obtain ⟨e, he⟩ := not_decodes_iff.mp hno
    obtain ⟨before, w, after, rfl, -, hw⟩ := (mapM_eq_error_iff _ _ _).mp he
    exact not_decodes_iff.mpr ⟨e, hw⟩ (hall w (by simp))

theorem decodes_option (item : HostType) (v : Value) :
    (option item).Decodes v ↔ v.isNull = true ∨ item.Decodes v := by
  unfold Decodes
  cases hv : v.isNull with
  | true => simp [decode_option_of_isNull hv]
  | false =>
    rw [decode_option_of_not_isNull hv]
    cases item.decode v <;> simp [Except.map]

/-- **The descriptor accepts what decodes**, by induction on the type. -/
theorem accepts_of_decodes (h : t.Decodes v) : t.desc.accepts v = true := by
  induction t generalizing v with
  | list item ih =>
    obtain ⟨items, rfl, hall⟩ := (decodes_list item v).mp h
    exact (accepts_list item.desc _).mpr ⟨items, rfl, fun w hw => ih (hall w hw)⟩
  | option item ih =>
    exact (accepts_optional item.desc v).mpr (((decodes_option item v).mp h).imp_right ih)
  | object type =>
    obtain ⟨o, rfl, rfl⟩ := (content?_isSome_iff type v).mp (fits_of_decodes h)
    exact (accepts_object _ _).mpr ⟨o, rfl, rfl⟩
  | _ => exact (accepts_leaf rfl rfl v).trans (fits_of_decodes h)

/-- A value of the right shape is at fault only by the range of an integer. -/
theorem outOfRange_of_fault? (hfits : t.fits v = true) (he : t.fault? v = some e) :
    ∃ target text, e = .outOfRange target text := by
  unfold fault? at he
  rw [if_pos hfits] at he
  split at he
  · split at he
    · cases he
    · exact ⟨_, _, (Option.some.inj he).symm⟩
  · cases he

/-- **What the descriptor accepts fails by its range alone**, by induction on the type. -/
theorem outOfRange_of_accepts (hnames : NamesApart t v) (ha : t.desc.accepts v = true)
    (he : t.decode v = .error e) : ∃ target text, e = .outOfRange target text := by
  induction t generalizing v with
  | list item ih =>
    obtain ⟨items, rfl, hall⟩ := (accepts_list item.desc v).mp ha
    rcases decode_list_eq_error.mp he with hfault | ⟨before, w, after, hv, -, hw⟩
    · exact outOfRange_of_fault? rfl hfault
    · cases hv
      have hmem : w ∈ before ++ w :: after := by simp
      exact ih (fun a ha b hb => hnames a ha b (.item hmem hb)) (hall w hmem) hw
  | option item ih =>
    obtain ⟨hv, hitem⟩ := decode_option_eq_error.mp he
    have hheld := ((accepts_optional item.desc v).mp ha).resolve_left (by rw [hv]; exact nofun)
    exact ih hnames hheld hitem
  | object type =>
    obtain ⟨h, rfl, hname⟩ := (accepts_object _ v).mp ha
    have htype := hnames type List.mem_cons_self h.type (.object rfl) hname.symm
    have hfits : (object type).fits (.object h) = true :=
      (content?_isSome_iff type _).mpr ⟨h, rfl, htype.symm⟩
    exact outOfRange_of_fault? hfits ((decode_leaf_eq_error rfl).mp he)
  | _ =>
    rw [accepts_leaf rfl rfl] at ha
    exact outOfRange_of_fault? ha ((decode_leaf_eq_error rfl).mp he)

/-- **A name alone does not tell a type**: an object of another type of the same name has the shape
that the descriptor asks for, and does not decode. -/
theorem mismatch_of_namesake (type : Tag) (h : Handle) (hname : h.type.name = type.name)
    (htype : h.type ≠ type) : (object type).desc.accepts (.object h) = true ∧
      (object type).decode (.object h) = .error (.mismatch type.name type.name) := by
  refine ⟨(accepts_object _ _).mpr ⟨h, rfl, hname⟩, ?_⟩
  have hcontent : (Value.object h).content? type = none := by
    simp [Value.content?, Value.asObject?, htype]
  have hdecode : (object type).decode (.object h) = .error (.mismatch type.name h.type.name) := by
    simp only [decode, hcontent]
    rfl
  rw [hdecode, hname]

/-! ## The component at fault -/

/-- The component of a type and a value at a path. -/
inductive Component : HostType → Value → List Nat → HostType → Value → Prop
  /-- The whole. -/
  | whole (t : HostType) (v : Value) : Component t v [] t v
  /-- Something in an item of a list. -/
  | item {item u : HostType} {items : List Value} {w x : Value} {i : Nat} {path : List Nat}
    (hi : items[i]? = some w) (h : Component item w path u x) :
    Component (.list item) (.list items) (i :: path) u x
  /-- Something in what an option holds. -/
  | held {item u : HostType} {v x : Value} {path : List Nat} (hv : v.isNull = false)
    (h : Component item v path u x) : Component (.option item) v (0 :: path) u x

/-- What decodes has parts that decode. -/
theorem Component.decodes {path : List Nat} (h : Component t v path u w) (hv : t.Decodes v) :
    u.Decodes w := by
  induction h with
  | whole => exact hv
  | item hi _ ih =>
    obtain ⟨items, heq, hall⟩ := (decodes_list _ _).mp hv
    cases heq
    exact ih (hall _ (List.mem_of_getElem? hi))
  | held hnull _ ih =>
    exact ih (((decodes_option _ _).mp hv).resolve_left (by rw [hnull]; exact nofun))

/-- Of two components, the one whose path goes on lies in the other. -/
theorem Component.rest {p r : List Nat} {u' : HostType} {w' : Value} (h : Component t v p u w)
    (h' : Component t v (p ++ r) u' w') : Component u w r u' w' := by
  induction h with
  | whole => exact h'
  | item hi _ ih =>
    cases h' with
    | item hi' hinner => exact ih (Option.some.inj (hi.symm.trans hi') ▸ hinner)
  | held _ _ ih =>
    cases h' with
    | held _ hinner => exact ih hinner

theorem Component.eq_whole (h : Component t v [] u w) : t = u ∧ v = w := by
  cases h
  exact ⟨rfl, rfl⟩

/-- A type without parts has no component but the whole. -/
theorem Component.path_of_isLeaf {path : List Nat} (ht : t.isLeaf = true)
    (h : Component t v path u w) : path = [] := by
  cases h with
  | whole => rfl
  | item | held => cases ht

/-- The path lies to the left of the other: where the two part, it takes the smaller step. -/
inductive LeftOf : List Nat → List Nat → Prop
  | here {i j : Nat} (p q : List Nat) (h : i < j) : LeftOf (i :: p) (j :: q)
  | later (i : Nat) {p q : List Nat} (h : LeftOf p q) : LeftOf (i :: p) (i :: q)

/-- Two paths part, or one goes on from the other. -/
theorem leftOf_or_prefix : ∀ p q : List Nat, LeftOf p q ∨ LeftOf q p ∨ p <+: q ∨ q <+: p
  | [], q => .inr (.inr (.inl q.nil_prefix))
  | p, [] => .inr (.inr (.inr p.nil_prefix))
  | i :: p, j :: q => by
    rcases Nat.lt_trichotomy i j with hlt | rfl | hgt
    · exact .inl (.here p q hlt)
    · rcases leftOf_or_prefix p q with h | h | h | h
      · exact .inl (.later i h)
      · exact .inr (.inl (.later i h))
      · exact .inr (.inr (.inl ((List.prefix_cons_inj i).mpr h)))
      · exact .inr (.inr (.inr ((List.prefix_cons_inj i).mpr h)))
    · exact .inr (.inl (.here q p hgt))

/-- The component at the path does not decode, everything in it does, and so does everything to the
left of it. -/
structure Culprit (t : HostType) (v : Value) (path : List Nat) (u : HostType) (w : Value) :
    Prop where
  component : Component t v path u w
  fails : ¬ u.Decodes w
  innermost : ∀ inner u' w', Component u w inner u' w' → ¬ u'.Decodes w' → inner = []
  leftmost : ∀ path' u' w', Component t v path' u' w' → LeftOf path' path → u'.Decodes w'

/-- A value at fault as a whole is its own culprit when it has no other component. -/
theorem Culprit.of_whole (hfails : ¬ t.Decodes v)
    (honly : ∀ path u w, Component t v path u w → path = []) : Culprit t v [] t v :=
  ⟨.whole t v, hfails, fun inner u w h _ => honly inner u w h, nofun⟩

/-- The culprit in the first item that does not decode is that of the list. -/
theorem Culprit.in_item {before after : List Value} {x : Value} {path : List Nat}
    (hbefore : ∀ b ∈ before, item.Decodes b) (h : Culprit item w path u x) :
    Culprit (.list item) (.list (before ++ w :: after)) (before.length :: path) u x where
  component := .item (by simp) h.component
  fails := h.fails
  innermost := h.innermost
  leftmost := by
    rintro path' u' w' hcomponent hleft
    cases hcomponent with
    | whole => cases hleft
    | item hi hinner =>
      cases hleft with
      | here _ _ hlt =>
        rw [List.getElem?_append_left hlt] at hi
        exact hinner.decodes (hbefore _ (List.mem_of_getElem? hi))
      | later _ hleft =>
        rw [List.getElem?_append_right (Nat.le_refl _), Nat.sub_self] at hi
        cases hi
        exact h.leftmost _ _ _ hinner hleft

/-- The culprit in what an option holds is that of the option. -/
theorem Culprit.in_held {path : List Nat} (hv : v.isNull = false) (h : Culprit item v path u w) :
    Culprit (.option item) v (0 :: path) u w where
  component := .held hv h.component
  fails := h.fails
  innermost := h.innermost
  leftmost := by
    rintro path' u' w' hcomponent hleft
    cases hcomponent with
    | whole => cases hleft
    | held _ hinner =>
      cases hleft with
      | here _ _ hlt => exact absurd hlt (Nat.lt_irrefl 0)
      | later _ hleft => exact h.leftmost _ _ _ hinner hleft

/-- **The error of a value is that of a culprit**, by induction on the type. -/
theorem exists_culprit (he : t.decode v = .error e) :
    ∃ path u w, Culprit t v path u w ∧ u.fault? w = some e := by
  have hfails : ¬ t.Decodes v := not_decodes_iff.mpr ⟨e, he⟩
  induction t generalizing v with
  | list item ih =>
    rcases decode_list_eq_error.mp he with hfault | ⟨before, w, after, rfl, hbefore, hw⟩
    · refine ⟨[], _, v, .of_whole hfails fun path u w h => ?_, hfault⟩
      cases h with
      | whole => rfl
      | item => cases hfault
    · obtain ⟨path, u, x, hculprit, hfault⟩ := ih hw (not_decodes_iff.mpr ⟨e, hw⟩)
      exact ⟨_, u, x, hculprit.in_item hbefore, hfault⟩
  | option item ih =>
    obtain ⟨hv, hitem⟩ := decode_option_eq_error.mp he
    obtain ⟨path, u, w, hculprit, hfault⟩ := ih hitem (not_decodes_iff.mpr ⟨e, hitem⟩)
    exact ⟨_, u, w, hculprit.in_held hv, hfault⟩
  | _ => exact ⟨[], _, v, .of_whole hfails fun _ _ _ h => h.path_of_isLeaf rfl,
      (decode_leaf_eq_error rfl).mp he⟩

/-- A culprit lies in no other one and to the left of no other one. -/
theorem Culprit.nested {p q : List Nat} {u' : HostType} {w' : Value} (h : Culprit t v p u w)
    (h' : Culprit t v q u' w') : p <+: q ∨ q <+: p := by
  rcases leftOf_or_prefix p q with hleft | hleft | hnested | hnested
  · exact absurd (h'.leftmost _ _ _ h.component hleft) h.fails
  · exact absurd (h.leftmost _ _ _ h'.component hleft) h'.fails
  · exact .inl hnested
  · exact .inr hnested

theorem Culprit.eq_of_nested {p q : List Nat} {u' : HostType} {w' : Value} (h : Culprit t v p u w)
    (h' : Culprit t v q u' w') (hnested : p <+: q) : p = q ∧ u = u' ∧ w = w' := by
  obtain ⟨rest, rfl⟩ := hnested
  have hrest := h.component.rest h'.component
  obtain rfl := h.innermost _ _ _ hrest h'.fails
  exact ⟨(List.append_nil p).symm, hrest.eq_whole⟩

/-- **There is one culprit.** -/
theorem Culprit.unique {p q : List Nat} {u' : HostType} {w' : Value} (h : Culprit t v p u w)
    (h' : Culprit t v q u' w') : p = q ∧ u = u' ∧ w = w' := by
  rcases h.nested h' with hnested | hnested
  · exact h.eq_of_nested h' hnested
  · obtain ⟨rfl, rfl, rfl⟩ := h'.eq_of_nested h hnested
    exact ⟨rfl, rfl, rfl⟩

/-- **Descriptors and decoding agree.** The descriptor of a type accepts every value that decodes;
what it accepts decodes or has an integer out of range, where the types of objects are told apart
by their names; and the error of a value is always that of its leftmost innermost component that
does not decode. -/
theorem decode_agreement (t : HostType) (v : Value) :
    (t.Decodes v → t.desc.accepts v = true) ∧
    (NamesApart t v → t.desc.accepts v = true →
      t.Decodes v ∨ ∃ target text, t.decode v = .error (.outOfRange target text)) ∧
    ∀ e, t.decode v = .error e ↔ ∃ path u w, Culprit t v path u w ∧ u.fault? w = some e := by
  refine ⟨accepts_of_decodes, fun hnames haccepts => ?_, fun e => ⟨exists_culprit, ?_⟩⟩
  · by_cases hdecodes : t.Decodes v
    · exact .inl hdecodes
    · obtain ⟨e, he⟩ := not_decodes_iff.mp hdecodes
      obtain ⟨target, text, rfl⟩ := outOfRange_of_accepts hnames haccepts he
      exact .inr ⟨target, text, he⟩
  · rintro ⟨path, u, w, hculprit, hfault⟩
    have hfails : ¬ t.Decodes v := fun h => hculprit.fails (hculprit.component.decodes h)
    obtain ⟨e', he'⟩ := not_decodes_iff.mp hfails
    obtain ⟨_, u', w', hculprit', hfault'⟩ := exists_culprit he'
    obtain ⟨-, rfl, rfl⟩ := hculprit.unique hculprit'
    rw [he', Option.some.inj (hfault'.symm.trans hfault)]

/-- An octet too many: `[null, 300]` has the shape of a list of optional octets, and what its second
item holds is out of range. -/
theorem decode_agreement_octets :
    let octets : HostType := .list (.option (.integer .u8))
    let wide : Value := .list [.null, .uint 300]
    (octets.Decodes (.list [.null, .uint 200]) ∧
      octets.desc.accepts (.list [.null, .uint 200]) = true) ∧
    (NamesApart octets wide ∧ octets.desc.accepts wide = true ∧ ¬ octets.Decodes wide) ∧
    octets.decode wide = .error (.outOfRange "u8" "300") ∧
    ∃ path u w, Culprit octets wide path u w ∧ u.fault? w = some (.outOfRange "u8" "300") := by
  intro octets wide
  have hdecodes : octets.Decodes (.list [.null, .uint 200]) := ⟨_, rfl⟩
  have hnames : NamesApart octets wide := nofun
  have haccepts : octets.desc.accepts wide = true := rfl
  have herror : octets.decode wide = .error (.outOfRange "u8" "300") := rfl
  have hfails : ¬ octets.Decodes wide := not_decodes_iff.mpr ⟨_, herror⟩
  obtain ⟨hshape, -, -⟩ := decode_agreement octets (.list [.null, .uint 200])
  obtain ⟨-, hrange, hculprit⟩ := decode_agreement octets wide
  obtain ⟨target, text, houtOfRange⟩ := (hrange hnames haccepts).resolve_left hfails
  obtain ⟨rfl, rfl⟩ := ConversionError.outOfRange.inj
    (Except.error.inj (herror.symm.trans houtOfRange))
  exact ⟨⟨hdecodes, hshape hdecodes⟩, ⟨hnames, haccepts, hfails⟩, herror, (hculprit _).mp herror⟩

end Interpose
