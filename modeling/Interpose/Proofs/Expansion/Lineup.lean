import Interpose.Proofs.Dispatch.Wiring
import Interpose.Proofs.Expansion.Substitution

/-!
# Declarations and wrapper line up

The declared methods and the methods of the wrapper come from one list of functions, by different
tests: what is declared, what has a thunk, what the wrapper can have, and what it calls through the
proxy. A method of the wrapper that goes through the proxy names a declaration by its position alone.

* `Inventory` : the functions that the declarations are for, by their positions in the block.
* `Aligned` : a method of the wrapper, its function, and the declaration at its index.
* `SurfaceOf` : what the emitted declarations say of a surface. The descriptors of converted types
  are those of the types, whatever they are, and the code of a thunk is not looked at.

Results:
* `exists_inventory`: every function that is not left out is declared once, in source order.
* `aligned_of_mem`: every method of the wrapper is aligned.
* `SurfaceOf.call_raises`: calls at the index of a method of the wrapper reach code, with the access
  that it needs.
* **`wrapper_aligned`**: all of this for every block that is expanded.
-/

namespace Interpose.Expansion

open Source

/-! ## Positions in a list -/

section Positions

variable {α : Type} {q : α → Bool} {l : List α}

/-- The positions of the items that pass the test, in order. -/
def positions (q : α → Bool) (l : List α) : List Nat :=
  (l.zipIdx.filter fun x => q x.1).map (·.2)

theorem positions_pairwise (q : α → Bool) (l : List α) : (positions q l).Pairwise (· < ·) := by
  have h : (l.zipIdx.map Prod.snd).Pairwise (· < ·) := by
    rw [List.zipIdx_map_snd]
    exact List.pairwise_lt_range'
  unfold positions
  rw [List.pairwise_map] at h ⊢
  exact h.filter _

/-- The items that pass the test, by way of their positions. -/
theorem filter_eq_map_fst (q : α → Bool) (l : List α) :
    l.filter q = (l.zipIdx.filter fun x => q x.1).map (·.1) := by
  conv_lhs => rw [← List.zipIdx_map_fst 0 l]
  rw [List.filter_map]
  rfl

/-- The items that pass the test stand at these positions. -/
theorem positions_items (q : α → Bool) (l : List α) :
    List.Forall₂ (fun i a => l[i]? = some a ∧ q a = true) (positions q l) (l.filter q) := by
  rw [filter_eq_map_fst, positions, List.forall₂_map_left_iff, List.forall₂_map_right_iff,
    List.forall₂_same]
  rintro ⟨a, i⟩ hmem
  obtain ⟨hzip, ha⟩ := List.mem_filter.mp hmem
  exact ⟨List.mem_zipIdx_iff_getElem?.mp hzip, ha⟩

theorem mem_positions {i : Nat} : i ∈ positions q l ↔ ∃ a, l[i]? = some a ∧ q a = true := by
  simp [positions, List.mem_zipIdx_iff_getElem?]

end Positions

/-! ## What is declared -/

variable {settings : Settings} {block : Block} {e : Expansion} {all methods : List Shape}
  {s : Shape} {fn : Function} {simple : String} {w : WrapperCode}

/-- The function is marked to be left out. -/
def LeftOut (fn : Function) : Prop :=
  ∃ flags, Flags.ofAttributes fn.attributes = .ok flags ∧ flags.isSkipped = true

/-- The declarations are those of the functions at the positions, in source order. -/
structure Listed {δ : Type} (block : Block) (simple : String) (declare : Shape → δ)
    (constructors : Bool) (positions : List Nat) (declared : List δ) : Prop where
  ordered : positions.Pairwise (· < ·)
  each : List.Forall₂ (fun i c => ∃ fn s, block.functions[i]? = some fn ∧
    Shape.ofFunction? simple fn = .ok s ∧ s.isConstructor = constructors ∧ c = declare s)
    positions declared

/-- **The functions that are declared**, by their positions in the block. -/
structure Inventory (block : Block) (e : Expansion) (cs ms : List Nat) : Prop where
  constructors : Listed block e.simple ConstructorCode.ofShape true cs e.constructors
  methods : Listed block e.simple MethodCode.ofShape false ms e.methods
  disjoint : cs.Disjoint ms
  /-- All functions but those that are left out are declared. -/
  complete : ∀ i, (i ∈ cs ∨ i ∈ ms) ↔ ∃ fn, block.functions[i]? = some fn ∧ ¬ LeftOut fn

theorem leftOut_iff (h : Shape.ofFunction? simple fn = .ok s) :
    LeftOut fn ↔ s.isSkipped = true := by
  obtain ⟨flags, hflags, rfl⟩ := ofFunction?_eq_ok_iff.mp h
  simp [LeftOut, hflags, Shape.ofFunction]

/-- The declarations of the shapes that pass a test. -/
theorem listed_filter {δ : Type} (hall : shapes simple block = .ok all) (declare : Shape → δ)
    (constructors : Bool) {q : Shape → Bool} (hq : ∀ s, q s = true → s.isConstructor = constructors) :
    Listed block simple declare constructors (positions q all) ((all.filter q).map declare) where
  ordered := positions_pairwise q all
  each := by
    rw [List.forall₂_map_right_iff]
    refine (positions_items q all).imp fun i s hs => ?_
    obtain ⟨fn, hfn, hshape⟩ := forall₂_getElem? (shapes_ok_iff.mp hall).flip hs.1
    exact ⟨fn, s, hfn, hshape, hq s hs.2, rfl⟩

/-- **Every function that is not left out is declared once**, in source order. -/
theorem exists_inventory (he : expand settings block = .ok e) :
    ∃ cs ms, Inventory block e cs ms := by
  obtain ⟨all, hall, -, hconstructors, hd⟩ := expand_ok he
  let isConstructor (s : Shape) : Bool := s.isConstructor && !s.isSkipped
  let isMethod (s : Shape) : Bool := !s.isConstructor && !s.isSkipped
  refine ⟨positions isConstructor all, positions isMethod all, ?_, ?_, ?_, fun i => ?_⟩
  · rw [hconstructors, declaredConstructors, List.filter_filter]
    exact listed_filter hall _ true fun s hs => (Bool.and_eq_true_iff.mp hs).1
  · rw [hd.methods_eq, declaredMethods, List.filter_filter]
    exact listed_filter hall _ false fun s hs => by simpa using (Bool.and_eq_true_iff.mp hs).1
  · intro i hi hi'
    obtain ⟨s, hs, hq⟩ := mem_positions.mp hi
    obtain ⟨s', hs', hq'⟩ := mem_positions.mp hi'
    cases hs.symm.trans hs'
    simp_all [isConstructor, isMethod]
  · simp only [mem_positions]
    constructor
    · intro h
      obtain ⟨s, hs, hskip⟩ : ∃ s, all[i]? = some s ∧ s.isSkipped = false := by
        rcases h with ⟨s, hs, hq⟩ | ⟨s, hs, hq⟩
        · exact ⟨s, hs, by simpa using (Bool.and_eq_true_iff.mp hq).2⟩
        · exact ⟨s, hs, by simpa using (Bool.and_eq_true_iff.mp hq).2⟩
      obtain ⟨fn, hfn, hshape⟩ := forall₂_getElem? (shapes_ok_iff.mp hall).flip hs
      refine ⟨fn, hfn, fun hleft => ?_⟩
      rw [leftOut_iff hshape, hskip] at hleft
      cases hleft
    · rintro ⟨fn, hfn, hkept⟩
      obtain ⟨s, hs, hshape⟩ := forall₂_getElem? (shapes_ok_iff.mp hall) hfn
      rw [leftOut_iff hshape, Bool.not_eq_true] at hkept
      cases hkind : s.isConstructor with
      | true => exact .inl ⟨s, hs, by simp [isConstructor, hkind, hkept]⟩
      | false => exact .inr ⟨s, hs, by simp [isMethod, hkind, hkept]⟩

/-! ## Methods of the wrapper -/

/-- **A method of the wrapper lines up** with its function and with the declaration at its index. -/
structure Aligned (block : Block) (e : Expansion) (w : WrapperCode) : Prop where
  /-- It has the name and the parameters of a function that takes its instance by reference, and
  takes the proxy as the function does its instance. -/
  source : ∃ fn ∈ block.functions, ¬ LeftOut fn ∧ fn.name = w.name ∧
    w.params = fn.parameters.mapIdx Binding.ofParameter ∧
    ∃ attributes lifetime, fn.receiver = some ⟨attributes, .reference lifetime w.exclusive⟩
  /-- The declaration at its index has its name, its parameters with their types, and a thunk that
  takes the instance in the same way. -/
  routed : ∀ i, w.index = some i → ∃ m t, e.methods[i]? = some m ∧ m.thunk = some t ∧
    m.signature.name = w.name ∧
    m.signature.receiver = (if w.exclusive then .exclusive else .shared) ∧
    t.exclusive = w.exclusive ∧
    m.signature.params = w.params.map (fun b => ⟨b.name, .converted b.type⟩) ∧
    t.params = w.params
  /-- It writes its arguments as values of these types and calls the proxy at the index. -/
  routed_body : ∀ i, w.index = some i → ∀ self, ∃ path types, w.bodyTokens self =
    enginePath path ++ angles types ++ [parens (
      phrase (if w.exclusive then "self . call_mut" else "self . call_ref") ++
      [parens (indexLiteral i :: .mark ',' false :: phrase ":: std :: vec !" ++
        [brackets (commaBetween (w.params.map fun b => toValue b.type [.word b.binder]))])] ++
      [.mark ',' false, textLiteral w.name])]
  /-- Without an index it calls the function on the target. -/
  direct_body : w.index = none → ∀ self, w.bodyTokens self =
    angles self.tokens ++ operator "::" ++ [.word w.name, parens (
      phrase (if w.exclusive then "self . target_mut" else "self . target") ++
        [parens [], .mark ',' false] ++ binderTokens w.params)]

/-- What takes its instance by reference says so in its receiver. -/
theorem receiver_of_takesReference (h : Shape.ofFunction? simple fn = .ok s)
    (hs : s.takesReference = true) : ∃ attributes lifetime,
      fn.receiver = some ⟨attributes, .reference lifetime (s.receiver == .exclusive)⟩ := by
  obtain ⟨flags, rfl⟩ := ofFunction?_ok h
  simp only [Shape.takesReference, Shape.ofFunction] at hs ⊢
  cases hreceiver : fn.receiver with
  | none => simp [hreceiver, receiverOf] at hs
  | some r =>
    obtain ⟨attributes, form⟩ := r
    cases form with
    | reference lifetime exclusive =>
      refine ⟨attributes, lifetime, ?_⟩
      cases exclusive <;> rfl
    | value rebound => simp [hreceiver, receiverOf] at hs
    | typed rebound type => simp [hreceiver, receiverOf] at hs

theorem paramNotes_converted {params : List Binding}
    (h : params.all (·.type.isRepresentable) = true) :
    paramNotes true params = params.map fun b => ⟨b.name, .converted b.type⟩ := by
  refine List.map_congr_left fun b hb => ?_
  simp [TypeNote.ofType, List.all_eq_true.mp h b hb]

theorem params_isRepresentable (h : s.isRepresentable = true) :
    s.params.all (·.type.isRepresentable) = true := by
  simp only [Shape.isRepresentable, Bool.and_eq_true] at h
  exact h.1.2

theorem receiver_eq (h : s.takesReference = true) :
    s.receiver = if s.receiver == .exclusive then .exclusive else .shared := by
  unfold Shape.takesReference at h
  cases hr : s.receiver <;> simp_all

/-- The method of a declared function goes through the proxy iff the function may be overridden and
can be called through values, and then by the position of its declaration. -/
theorem index_eq_some {i j : Nat} : (WrapperCode.ofShape i s).index = some j ↔
    s.isCandidate = true ∧ s.isRepresentable = true ∧ i = j := by
  simp [WrapperCode.ofShape, and_assoc]

/-- The body of a method that goes through the proxy. -/
theorem bodyTokens_routed {i : Nat} (h : w.index = some i) (self : Ty) :
    ∃ path types, w.bodyTokens self = enginePath path ++ angles types ++ [parens (
      phrase (if w.exclusive then "self . call_mut" else "self . call_ref") ++
      [parens (indexLiteral i :: .mark ',' false :: phrase ":: std :: vec !" ++
        [brackets (commaBetween (w.params.map fun b => toValue b.type [.word b.binder]))])] ++
      [.mark ',' false, textLiteral w.name])] := by
  unfold WrapperCode.bodyTokens
  rw [h]
  cases w.output with
  | unit => exact ⟨_, _, rfl⟩
  | plain t => exact ⟨_, _, rfl⟩
  | fallible ok err => exact ⟨_, _, rfl⟩

/-- **Every method of the wrapper lines up.** -/
theorem aligned_of_mem (he : expand settings block = .ok e) (hw : w ∈ e.wrappers) :
    Aligned block e w := by
  obtain ⟨all, hall, hd⟩ := declares_of_expand he
  obtain ⟨i, s, hi, hwrappable, rfl⟩ := hd.exists_of_wrapper hw
  have htakes := takesReference_of_isWrappable hwrappable
  obtain ⟨hmem, hskip, -⟩ := mem_declaredMethods.mp (List.mem_of_getElem? hi)
  obtain ⟨fn, hfn, hshape⟩ := exists_function hall hmem
  refine ⟨⟨fn, hfn, ?_, (shape_name hshape).symm, ?_, receiver_of_takesReference hshape htakes⟩,
    fun j hj => ?_, fun j hj => bodyTokens_routed hj, fun hnone self => ?_⟩
  · rw [leftOut_iff hshape, hskip]
    exact Bool.false_ne_true
  · obtain ⟨flags, rfl⟩ := ofFunction?_ok hshape
    rfl
  · obtain ⟨hcandidate, hrep, rfl⟩ := index_eq_some.mp hj
    have hconverted : (s.isCandidate && s.takesReference) = true := by rw [hcandidate, htakes]; rfl
    refine ⟨.ofShape s, s.thunk, ?_, ?_, rfl, receiver_eq htakes, rfl, ?_, rfl⟩
    · rw [hd.methods_eq, List.getElem?_map, hi]
      rfl
    · rw [thunk_ofShape, hconverted, hrep]
      rfl
    · show paramNotes (s.isCandidate && s.takesReference) s.params = _
      rw [hconverted]
      exact paramNotes_converted (params_isRepresentable hrep)
  · unfold WrapperCode.bodyTokens
    rw [hnone]

/-! ## Surfaces of an expansion -/

variable {H S : Type}

/-- The descriptor that a note stands for, given the descriptors of converted types. -/
def TypeNote.descWith (desc : Ty → Desc) : TypeNote → Desc
  | .native spelling => .native spelling
  | .unrepresentable spelling => .unrepresentable spelling
  | .converted t => desc t

/-- The declared parameter. -/
def ParamNote.paramWith (desc : Ty → Desc) (q : ParamNote) : Param := ⟨q.name, q.type.descWith desc⟩

/-- The declared signature. -/
def SignatureCode.signatureWith (desc : Ty → Desc) (s : SignatureCode) : Signature where
  name := s.name
  params := s.params.map (ParamNote.paramWith desc)
  returns := (s.returns.map (TypeNote.descWith desc)).getD .unit
  failure := s.failure
  receiver := s.receiver
  visibility := s.visibility
  isFinal := s.isFinal

/-- The access that a thunk needs. -/
def ThunkCode.needs (t : ThunkCode) : Access := if t.exclusive then .exclusive else .shared

/-- The constructor is as the emitted declaration says. -/
structure ConstructorOf (desc : Ty → Desc) (c : ConstructorCode) (k : Constructor S) : Prop where
  name : k.name = c.name
  params : k.params = c.params.map (ParamNote.paramWith desc)
  visibility : k.visibility = c.visibility
  build : k.build.isSome = c.build.isSome

/-- The method is as the emitted declaration says. The code of its thunk may be any code. -/
structure MethodOf (desc : Ty → Desc) (c : MethodCode) (m : Method S) : Prop where
  signature : m.signature = c.signature.signatureWith desc
  needs : m.original.map (·.needs) = c.thunk.map ThunkCode.needs

/-- **What the emitted declarations say of a surface**, given the descriptors of converted types. -/
structure SurfaceOf (desc : Ty → Desc) (e : Expansion) (d : Surface S) : Prop where
  simple : d.simple = e.simple
  isSealed : d.isSealed = e.isSealed
  constructors : List.Forall₂ (ConstructorOf desc) e.constructors d.constructors
  methods : List.Forall₂ (MethodOf desc) e.methods d.methods

/-- The surface that the declarations give in a scope is one of theirs. -/
theorem surfaceOf_surface (scope : Scope) (lib : Library S) (e : Expansion) :
    SurfaceOf (fun t => (scope.host t).desc) e (e.surface scope lib) := by
  have hnote (n : TypeNote) : n.desc scope = n.descWith fun t => (scope.host t).desc := by
    cases n <;> rfl
  have hparam : ParamNote.param scope = ParamNote.paramWith fun t => (scope.host t).desc := by
    funext q
    exact congrArg (Param.mk q.name) (hnote q.type)
  refine ⟨rfl, rfl, ?_, ?_⟩
  · refine List.forall₂_map_right_iff.mpr (List.forall₂_same.mpr fun c _ => ⟨rfl, ?_, rfl, ?_⟩)
    · show c.params.map (ParamNote.param scope) = _
      rw [hparam]
    · exact Option.isSome_map
  · refine List.forall₂_map_right_iff.mpr (List.forall₂_same.mpr fun c _ => ⟨?_, ?_⟩)
    · show c.signature.signature scope = _
      simp only [SignatureCode.signature, SignatureCode.signatureWith, hparam, funext hnote]
    · show (c.thunk.map _).map _ = _
      rw [Option.map_map]
      rfl

variable {desc : Ty → Desc} {d : Surface S} {f : Filter} {t : Target S} {p : ProxyType S}
  {icp : Interceptor H S} {i : Nat}

/-- The methods of the surface are those of the shapes, in order. -/
theorem SurfaceOf.methods_of (hd : SurfaceOf desc e d) (hdecl : Declares e methods) :
    List.Forall₂ (fun s => MethodOf desc (.ofShape s)) methods d.methods := by
  rw [← List.forall₂_map_left_iff, ← hdecl.methods_eq]
  exact hd.methods

namespace MethodOf

variable {m : Method S} (h : MethodOf desc (.ofShape s) m)

include h

theorem name : m.signature.name = s.name := by
  rw [h.signature]
  rfl

theorem receiver : m.signature.receiver = s.receiver := by
  rw [h.signature]
  rfl

/-- The code is there iff the function has a thunk. -/
theorem isSome_original :
    m.original.isSome = (s.isCandidate && s.takesReference && s.isRepresentable) := by
  rw [← Option.isSome_map (f := (·.needs)), h.needs, Option.isSome_map, thunk_ofShape]
  cases s.isCandidate && s.takesReference && s.isRepresentable <;> rfl

/-- The code needs the access with which the method receives its instance. -/
theorem needs_eq {o : Original S} (ho : m.original = some o) :
    o.needs = if s.receiver == .exclusive then .exclusive else .shared := by
  have hneeds := h.needs
  rw [ho, Option.map_some] at hneeds
  obtain ⟨thunk, hthunk, hown⟩ := Option.map_eq_some_iff.mp hneeds.symm
  obtain ⟨-, -, rfl⟩ := thunk_eq_some hthunk
  exact hown.symm

end MethodOf

/-- **A call at the index of a method of the wrapper reaches code**, with the access that the code
needs. Where declarations of one name share their code, they receive their instance alike. -/
theorem SurfaceOf.call_raises (hd : SurfaceOf desc e d) (hdecl : Declares e methods)
    (hp : Generated d f t p) (hw : w ∈ e.wrappers) (hi : w.index = some i) {args : List Value}
    {state : S} {hooks : H} {err : DispatchError}
    (hr : (Instance.call ⟨p, state⟩ icp w.access i args hooks).Raises err) :
    err.isRouting = false := by
  obtain ⟨j, s, hj, hwrappable, rfl⟩ := hdecl.exists_of_wrapper hw
  obtain ⟨hcandidate, hrep, rfl⟩ := index_eq_some.mp hi
  have htakes := takesReference_of_isWrappable hwrappable
  obtain ⟨m, hm, hmethod⟩ := forall₂_getElem? (hd.methods_of hdecl) hj
  have hstatic : m.signature.receiver ≠ .static := hmethod.receiver ▸ receiver_ne_static htakes
  have hcode : m.original.isSome = true := by
    rw [hmethod.isSome_original, hcandidate, htakes, hrep]
    rfl
  obtain ⟨row, o, hrow, hroute, ho, source, hmem, hsource, -, hshape⟩ :=
    code_of_callable hp hm hstatic hcode
  obtain ⟨k, hk⟩ := List.getElem?_of_mem hmem
  obtain ⟨s', -, hother⟩ := forall₂_getElem? (hd.methods_of hdecl).flip hk
  have hreceiver : s'.receiver = s.receiver := by
    simp only [Signature.sameShape, Bool.and_eq_true, decide_eq_true_eq] at hshape
    rw [← hother.receiver, ← hmethod.receiver, hshape.2]
  have hsuffices : (WrapperCode.ofShape j s).access.suffices o.needs = true := by
    rw [hother.needs_eq hsource, hreceiver]
    show (if s.receiver == .exclusive then Access.exclusive else .shared).suffices _ = true
    cases s.receiver == .exclusive <;> rfl
  rw [Instance.call_eq_dispatch] at hr
  exact dispatch_raises hrow hroute ho hsuffices hr

/-! ## The whole -/

/-- Declared methods have different names where the functions of the block have. -/
theorem declared_names_nodup (he : expand settings block = .ok e)
    (hnames : (block.functions.map (·.name)).Nodup) :
    (e.methods.map (·.signature.name)).Nodup := by
  obtain ⟨all, hall, hdecl⟩ := declares_of_expand he
  rw [hdecl.methods_eq, List.map_map]
  exact names_nodup hall hnames

/-- **Declarations and wrapper line up**, for every block that is expanded. The declarations list
every function that is not left out once, in source order, constructors and methods apart. A method
of the wrapper that goes through the proxy names the declaration of its name by its position, the
only one where functions have different names; that declaration has code, for the parameters that
the wrapper writes and with the access that the wrapper has. Any other method of the wrapper calls
the function on the target. So no method of the wrapper misses its code: on whatever type is
generated from the declared surface, for every interceptor and state, the dispatcher raises no
error that is about the way to the code. -/
theorem wrapper_aligned (he : expand settings block = .ok e) :
    (∃ cs ms, Inventory block e cs ms) ∧
    ∀ w ∈ e.wrappers, Aligned block e w ∧
      ∀ i, w.index = some i →
        ((block.functions.map (·.name)).Nodup → ∀ j m, e.methods[j]? = some m →
          m.signature.name = w.name → j = i) ∧
        ∀ (desc : Ty → Desc) (d : Surface S), SurfaceOf desc e d →
          ∀ f t p, Generated d f t p →
            ∀ (icp : Interceptor H S) (args : List Value) (state : S) (hooks : H) (err),
              (Instance.call ⟨p, state⟩ icp w.access i args hooks).Raises err →
                err.isRouting = false := by
  refine ⟨exists_inventory he, fun w hw => ⟨aligned_of_mem he hw, fun i hi => ⟨?_, ?_⟩⟩⟩
  · intro hnames j m hj hname
    obtain ⟨m', -, hm', -, hname', -⟩ := (aligned_of_mem he hw).routed i hi
    have hat : (e.methods.map (·.signature.name))[j]? = some w.name := by
      rw [List.getElem?_map, hj, Option.map_some, hname]
    have hat' : (e.methods.map (·.signature.name))[i]? = some w.name := by
      rw [List.getElem?_map, hm', Option.map_some, hname']
    have hlt := (List.getElem?_eq_some_iff.mp hat).1
    exact (List.getElem?_inj hlt (declared_names_nodup he hnames)).mp (hat.trans hat'.symm)
  · intro desc d hd f t p hp icp args state hooks err hr
    obtain ⟨all, -, hdecl⟩ := declares_of_expand he
    exact hd.call_raises hdecl hp hw hi hr

/-- The wrapper of the counter counts at index 0. A pass through the proxy misses no code, also
with arguments that are no items. -/
theorem wrapper_aligned_counter :
    let w := WrapperCode.ofShape 0 (counterShape countMethod)
    ∃ e t p, expand .none counterBlock = .ok e ∧ w ∈ e.wrappers ∧ Aligned counterBlock e w ∧
      Generated (e.surface counterScope counterLibrary) .all t p ∧
      ¬ (Instance.call ⟨p, ⟨0, 0⟩⟩ (.passThrough : Interceptor Unit (World Nat)) w.access 0
        [.str "none"] ()).Raises (.receiverMismatch "count") := by
  intro w
  obtain ⟨e, t, p, he, hw, hp⟩ : ∃ e t p, expand .none counterBlock = .ok e ∧ w ∈ e.wrappers ∧
      Generated (e.surface counterScope counterLibrary) .all t p :=
    ⟨_, _, _, rfl, List.mem_cons_self, rfl, ⟨0, "tests::Noop"⟩, .standard, 0, rfl⟩
  obtain ⟨haligned, hindex⟩ := (wrapper_aligned (H := Unit) (S := World Nat) he).2 w hw
  refine ⟨e, t, p, he, hw, haligned, hp, fun hr => ?_⟩
  have hrouting := (hindex 0 rfl).2 _ _ (surfaceOf_surface counterScope counterLibrary e) _ _ _ hp
    _ _ _ _ _ hr
  cases hrouting

end Interpose.Expansion
