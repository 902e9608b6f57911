import Interpose.Proofs.Conversion.Decoding
import Interpose.Proofs.Dispatch.Transparency
import Interpose.Proofs.Expansion.Meaning

/-!
# The declarations of an expansion

Every function of a block that is not left out is declared, and every declared method that the
wrapper can have is a method of the wrapper, with the position of its declaration.

* `declaredConstructors`, `declaredMethods` : the shapes of what is declared, in source order.
* `Declares` : an expansion declares methods of these shapes and has the wrapper over them.
* `Intercepted` : a declared method goes through the proxy.

Results:
* `withoutSign_eq_iff`: the names that come to one name without the sign of a raw one.
* `shapes_ok_iff`: the shapes of a block.
* `expand_eq`, `ofShapes_of_expand`: the tests of a block in turn, and what passes them.
* `expand_ok`, `declares_of_expand`: what an expansion declares.
* `names_sublist`, `names_nodup`: declared methods have the names of functions, in order, and
  different ones where these have.
* `Declares.wrapper_mem`, `Declares.method`: a method of the wrapper and the declaration at its
  index.
-/

namespace Interpose.Expansion

open Source

variable {settings : Settings} {block : Block} {e : Expansion} {all methods : List Shape}
  {s : Shape} {fn : Function} {simple : String}

/-! ## Lists that are related item by item -/

/-- What is related item by item is related at every position. -/
theorem forall₂_getElem? {α β : Type} {R : α → β → Prop} {l : List α} {l' : List β}
    (h : List.Forall₂ R l l') {i : Nat} {a : α} (hi : l[i]? = some a) :
    ∃ b, l'[i]? = some b ∧ R a b := by
  obtain ⟨hlt, rfl⟩ := List.getElem?_eq_some_iff.mp hi
  have hlt' : i < l'.length := h.length_eq ▸ hlt
  exact ⟨l'[i], List.getElem?_eq_getElem hlt', h.get hlt hlt'⟩

/-- What is related to something item by item is related to a list. -/
theorem exists_forall₂_iff {α β : Type} {R : α → β → Prop} {l : List α} :
    (∃ l', List.Forall₂ R l l') ↔ ∀ a ∈ l, ∃ b, R a b := by
  induction l with
  | nil => simp
  | cons a l ih =>
    rw [List.forall_mem_cons, ← ih]
    constructor
    · rintro ⟨_, h⟩
      obtain ⟨b, l', hb, hl', rfl⟩ := List.forall₂_cons_left_iff.mp h
      exact ⟨⟨b, hb⟩, l', hl'⟩
    · rintro ⟨⟨b, hb⟩, l', hl'⟩
      exact ⟨b :: l', .cons hb hl'⟩

/-- What is related item by item agrees in whatever the relation fixes. -/
theorem map_eq_of_forall₂ {α β γ : Type} {R : α → β → Prop} {l : List α} {l' : List β}
    (h : List.Forall₂ R l l') {g : α → γ} {g' : β → γ} (hR : ∀ a b, R a b → g a = g' b) :
    l.map g = l'.map g' :=
  List.forall₂_eq_eq_eq ▸
    (List.forall₂_map_left_iff.mpr (List.forall₂_map_right_iff.mpr (h.imp hR)))

/-- Lists that are related item by item have first items alike where the tests agree. -/
theorem find?_map_eq_of_forall₂ {α β γ : Type} {R : α → β → Prop} {l : List α} {l' : List β}
    (h : List.Forall₂ R l l') {g : α → γ} {g' : β → γ} {q : α → Bool} {q' : β → Bool}
    (hR : ∀ a b, R a b → g a = g' b ∧ q a = q' b) :
    (l.find? q).map g = (l'.find? q').map g' := by
  induction h with
  | nil => rfl
  | @cons a b l l' hab _ ih =>
    obtain ⟨hg, hq⟩ := hR a b hab
    rw [List.find?_cons, List.find?_cons, hq]
    cases q' b with
    | true => exact congrArg some hg
    | false => exact ih

/-! ## Names -/

/-- What is left without a sign is a name as it is or behind the sign. -/
theorem withoutSign_eq_iff {x y : String} (hy : y.toList.take 2 ≠ ['r', '#']) :
    withoutSign x = y ↔ x = y ∨ x = "r#" ++ y := by
  have hsigned : x = "r#" ++ y ↔ x.toList = 'r' :: '#' :: y.toList := by
    rw [← String.toList_inj, String.toList_append]
    rfl
  rw [hsigned]
  unfold withoutSign
  split
  next rest hx =>
    have hne : x ≠ y := by
      rintro rfl
      exact hy (by rw [hx]; rfl)
    rw [hx, List.cons.injEq, List.cons.injEq, ← String.toList_inj, String.toList_ofList]
    simp [hne]
  next hx => exact (or_iff_left (hx y.toList)).symm

/-! ## Shapes -/

theorem ofFunction?_eq_ok_iff : Shape.ofFunction? simple fn = .ok s ↔
    ∃ flags, Flags.ofAttributes fn.attributes = .ok flags ∧
      s = Shape.ofFunction simple fn flags := by
  unfold Shape.ofFunction?
  cases Flags.ofAttributes fn.attributes with
  | error e => simp [bind, Except.bind]
  | ok flags => simp [bind, Except.bind, pure, Except.pure, eq_comm]

theorem ofFunction?_ok (h : Shape.ofFunction? simple fn = .ok s) :
    ∃ flags, s = Shape.ofFunction simple fn flags := by
  obtain ⟨flags, -, hs⟩ := ofFunction?_eq_ok_iff.mp h
  exact ⟨flags, hs⟩

theorem shape_name (h : Shape.ofFunction? simple fn = .ok s) : s.name = fn.name := by
  obtain ⟨flags, rfl⟩ := ofFunction?_ok h
  rfl

/-- Only associated functions are constructors. -/
theorem isConstructor_eq_false (h : Shape.ofFunction? simple fn = .ok s)
    (hreceiver : s.receiver ≠ .static) : s.isConstructor = false := by
  obtain ⟨flags, rfl⟩ := ofFunction?_ok h
  have hother : (receiverOf fn.receiver == .static) = false := beq_eq_false_iff_ne.mpr hreceiver
  simp only [Shape.ofFunction, hother, Bool.false_and]

theorem shapes_ok_iff : shapes simple block = .ok all ↔
    List.Forall₂ (fun fn s => Shape.ofFunction? simple fn = .ok s) block.functions all := by
  rw [← mapM_eq_ok_iff]
  unfold shapes
  cases block.functions.mapM (Shape.ofFunction? simple) <;> simp [Except.mapError]

/-- The shape of a function of the block is among the shapes of the block. -/
theorem mem_shapes (hall : shapes simple block = .ok all) (hfn : fn ∈ block.functions)
    (hs : Shape.ofFunction? simple fn = .ok s) : s ∈ all := by
  obtain ⟨i, hi⟩ := List.getElem?_of_mem hfn
  obtain ⟨s', hs', hown⟩ := forall₂_getElem? (shapes_ok_iff.mp hall) hi
  cases hs.symm.trans hown
  exact List.mem_of_getElem? hs'

/-- A shape among those of the block is that of a function of the block. -/
theorem exists_function (hall : shapes simple block = .ok all) (hs : s ∈ all) :
    ∃ fn ∈ block.functions, Shape.ofFunction? simple fn = .ok s := by
  obtain ⟨i, hi⟩ := List.getElem?_of_mem hs
  obtain ⟨fn, hfn, hown⟩ := forall₂_getElem? (shapes_ok_iff.mp hall).flip hi
  exact ⟨fn, List.mem_of_getElem? hfn, hown⟩

/-! ## What is declared -/

/-- The shapes of the declared methods: all but those left out and the constructors. -/
def declaredMethods (all : List Shape) : List Shape :=
  (all.filter fun s => !s.isSkipped).filter fun s => !s.isConstructor

/-- The shapes of the declared constructors. -/
def declaredConstructors (all : List Shape) : List Shape :=
  (all.filter fun s => !s.isSkipped).filter (·.isConstructor)

theorem mem_declaredMethods :
    s ∈ declaredMethods all ↔ s ∈ all ∧ s.isSkipped = false ∧ s.isConstructor = false := by
  simp only [declaredMethods, List.mem_filter, Bool.not_eq_true', and_assoc]

theorem mem_declaredConstructors :
    s ∈ declaredConstructors all ↔ s ∈ all ∧ s.isSkipped = false ∧ s.isConstructor = true := by
  simp only [declaredConstructors, List.mem_filter, Bool.not_eq_true', and_assoc]

/-- The expansion declares methods of these shapes, in order, and has the wrapper over them. -/
structure Declares (e : Expansion) (methods : List Shape) : Prop where
  methods_eq : e.methods = methods.map MethodCode.ofShape
  wrappers_eq : e.wrappers = wrapperCodes methods
  no_constructor : ∀ s ∈ methods, s.isConstructor = false

/-- The expansion of a block whose functions have these shapes. -/
def ofShapes (settings : Settings) (block : Block) (simple : String)
    (all : List Shape) : Expansion where
  block := block.without flagAttribute
  simple
  qualified := settings.name
  isSealed := settings.isSealed
  constructors := (declaredConstructors all).map ConstructorCode.ofShape
  methods := (declaredMethods all).map MethodCode.ofShape
  wrapper := settings.wrapper.getD (defaultWrapper simple)
  wrappers := wrapperCodes (declaredMethods all)

/-- The tests of a block in turn. -/
theorem expand_eq (settings : Settings) (block : Block) : expand settings block =
    if block.trait.isSome then .error .traitBlock
    else if !block.generics.items.isEmpty then .error .genericBlock
    else match implementerName? block.selfType with
      | none => .error .implementer
      | some simple => (shapes simple block).bind fun all =>
        match (declaredMethods all).find? fun m =>
            m.isWrappable && instanceMethods.contains m.name with
        | some m => .error (.shadowed m.name)
        | none => .ok (.ofShapes settings block simple all) := by
  unfold expand
  cases block.trait.isSome with
  | true => rfl
  | false =>
    cases block.generics.items.isEmpty with
    | false => rfl
    | true => cases implementerName? block.selfType <;> rfl

theorem declares_ofShapes (settings : Settings) (block : Block) (simple : String)
    (all : List Shape) : Declares (ofShapes settings block simple all) (declaredMethods all) :=
  ⟨rfl, rfl, fun _ hs => (mem_declaredMethods.mp hs).2.2⟩

/-- An expansion is that of the shapes of its block, none of which is a method of the wrapper with a
name that every proxy has. -/
theorem ofShapes_of_expand (h : expand settings block = .ok e) :
    ∃ simple all, shapes simple block = .ok all ∧ e = ofShapes settings block simple all ∧
      ∀ m ∈ declaredMethods all, m.isWrappable = true → m.name ∉ instanceMethods := by
  rw [expand_eq] at h
  split at h
  · cases h
  · split at h
    · cases h
    · split at h
      · cases h
      · obtain ⟨all, hall, h⟩ := bind_eq_ok_iff.mp h
        split at h
        · cases h
        next hnone =>
          cases h
          refine ⟨_, all, hall, rfl, fun m hm hwrappable hreserved => ?_⟩
          exact List.find?_eq_none.mp hnone m hm (by simp [hwrappable, hreserved])

/-- **What an expansion is made of**: the shapes of the functions that are not left out, the
constructors and the methods apart. -/
theorem expand_ok (h : expand settings block = .ok e) :
    ∃ all, shapes e.simple block = .ok all ∧ e.isSealed = settings.isSealed ∧
      e.constructors = (declaredConstructors all).map ConstructorCode.ofShape ∧
      Declares e (declaredMethods all) := by
  obtain ⟨simple, all, hall, rfl, -⟩ := ofShapes_of_expand h
  exact ⟨all, hall, rfl, rfl, declares_ofShapes settings block simple all⟩

/-- **What an expansion declares**: all methods that are not left out. -/
theorem declares_of_expand (h : expand settings block = .ok e) :
    ∃ all, shapes e.simple block = .ok all ∧ Declares e (declaredMethods all) := by
  obtain ⟨all, hall, -, -, hd⟩ := expand_ok h
  exact ⟨all, hall, hd⟩

/-- The names of the declared methods are names of functions, in their order. -/
theorem names_sublist (hall : shapes simple block = .ok all) :
    ((declaredMethods all).map (·.name)).Sublist (block.functions.map (·.name)) := by
  have hmap : block.functions.map (·.name) = all.map (·.name) :=
    map_eq_of_forall₂ (shapes_ok_iff.mp hall) fun fn s h => (shape_name h).symm
  rw [hmap]
  exact (List.filter_sublist.trans List.filter_sublist).map _

/-- Functions of different names have shapes of different names. -/
theorem names_nodup (hall : shapes simple block = .ok all)
    (hnames : (block.functions.map (·.name)).Nodup) :
    ((declaredMethods all).map (·.name)).Nodup :=
  (names_sublist hall).nodup hnames

/-! ## Methods of the wrapper and their declarations -/

/-- A method that the wrapper can have is in the wrapper, with the position of its declaration. -/
theorem Declares.wrapper_mem {i : Nat} (h : Declares e methods) (hi : methods[i]? = some s)
    (hs : s.isWrappable = true) : WrapperCode.ofShape i s ∈ e.wrappers := by
  rw [h.wrappers_eq]
  refine List.mem_map.mpr ⟨(s, i), List.mem_filter.mpr ⟨?_, hs⟩, rfl⟩
  exact List.mem_zipIdx_iff_getElem?.mpr hi

/-- A method of the wrapper is that of a declared method that the wrapper can have. -/
theorem Declares.exists_of_wrapper {w : WrapperCode} (h : Declares e methods)
    (hw : w ∈ e.wrappers) :
    ∃ i s, methods[i]? = some s ∧ s.isWrappable = true ∧ w = .ofShape i s := by
  rw [h.wrappers_eq, wrapperCodes, List.mem_map] at hw
  obtain ⟨⟨s, i⟩, hmem, rfl⟩ := hw
  obtain ⟨hzip, hs⟩ := List.mem_filter.mp hmem
  exact ⟨i, s, List.mem_zipIdx_iff_getElem?.mp hzip, hs, rfl⟩

variable {S : Type} {scope : Scope} {lib : Library S}

/-- The declaration at the position of a shape. -/
theorem Declares.method (h : Declares e methods) {i : Nat} (hi : methods[i]? = some s) :
    (e.surface scope lib).methods[i]? = some ((MethodCode.ofShape s).method scope lib) := by
  show (e.methods.map _)[i]? = _
  rw [h.methods_eq, List.getElem?_map, List.getElem?_map, hi]
  rfl

theorem Declares.names (h : Declares e methods) :
    (e.surface scope lib).methods.map (·.signature.name) = methods.map (·.name) := by
  show (e.methods.map _).map _ = _
  rw [h.methods_eq, List.map_map, List.map_map]
  rfl

/-- Every declared method comes from a shape. -/
theorem Declares.exists_shape (h : Declares e methods) {m : Method (World S)}
    (hm : m ∈ (e.surface scope lib).methods) :
    ∃ s ∈ methods, (MethodCode.ofShape s).method scope lib = m := by
  have hm' : m ∈ (methods.map MethodCode.ofShape).map (MethodCode.method scope lib) :=
    h.methods_eq ▸ hm
  rw [List.map_map] at hm'
  exact List.mem_map.mp hm'

/-- The wrapper can only have methods that take their instance by reference. -/
theorem takesReference_of_isWrappable (hs : s.isWrappable = true) : s.takesReference = true := by
  simp only [Shape.isWrappable, Bool.and_eq_true] at hs
  exact hs.1.1.1.2

theorem receiver_ne_static (hs : s.takesReference = true) : s.receiver ≠ .static := by
  intro hstatic
  simp [Shape.takesReference, hstatic] at hs

/-! ## Thunks -/

/-- The thunk of a shape. -/
@[reducible] def Shape.thunk (s : Shape) : ThunkCode :=
  ⟨s.receiver == .exclusive, s.params, s.output⟩

/-- The declared method at the index goes through the proxy: it may be overridden, takes its
instance by reference and can be called through values. -/
structure Intercepted (methods : List Shape) (i : Nat) (s : Shape) : Prop where
  declared : methods[i]? = some s
  candidate : s.isCandidate = true
  takesReference : s.takesReference = true
  representable : s.isRepresentable = true

theorem thunk_ofShape (s : Shape) : (MethodCode.ofShape s).thunk =
    if s.isCandidate && s.takesReference && s.isRepresentable then some s.thunk else none := rfl

/-- Only methods that may be overridden and can be called through values have a thunk. -/
theorem thunk_eq_some {t : ThunkCode} (h : (MethodCode.ofShape s).thunk = some t) :
    (s.isCandidate && s.takesReference) = true ∧ s.isRepresentable = true ∧ t = s.thunk := by
  rw [thunk_ofShape] at h
  split at h
  next hcond =>
    obtain ⟨hconverted, hrep⟩ := Bool.and_eq_true_iff.mp hcond
    exact ⟨hconverted, hrep, (Option.some.inj h).symm⟩
  next => cases h

namespace Intercepted

variable {i : Nat} (h : Intercepted methods i s)

include h

/-- The code of the declared method. -/
theorem original : ((MethodCode.ofShape s).method scope lib).original =
    some (s.thunk.original scope (lib.method s.name _ _ _)) := by
  have hthunk : (MethodCode.ofShape s).thunk = some s.thunk := by
    rw [thunk_ofShape, h.candidate, h.takesReference, h.representable]
    rfl
  show (MethodCode.ofShape s).thunk.map _ = _
  rw [hthunk]
  rfl

theorem surface_original (hd : Declares e methods) : (e.surface scope lib).original? i =
    some (s.thunk.original scope (lib.method s.name _ _ _)) := by
  rw [Surface.original?, hd.method h.declared, Option.bind_some, h.original]

/-- The method of the wrapper goes through the proxy, by the index of its declaration. -/
theorem index : (WrapperCode.ofShape i s).index = some i :=
  if_pos (by rw [h.candidate, h.representable]; rfl)

end Intercepted

/-- The method of the wrapper has the access that its thunk needs. -/
theorem access_suffices (i : Nat) (s : Shape) (fn : TypedFunction S (hosts scope s.thunk.params)
    (s.thunk.output.returns scope) (s.thunk.output.declares scope)) :
    (WrapperCode.ofShape i s).access.suffices (s.thunk.original scope fn).needs = true := by
  show (if s.receiver == .exclusive then Access.exclusive else .shared).suffices
    (if s.receiver == .exclusive then Access.exclusive else .shared) = true
  cases s.receiver == .exclusive <;> rfl

end Interpose.Expansion
