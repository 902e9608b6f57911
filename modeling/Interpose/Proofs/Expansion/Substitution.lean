import Interpose.Proofs.Conversion.RoundTrip
import Interpose.Proofs.Expansion.Declared

/-!
# The wrapper in place of the original

A typed caller of a wrapper method on a proxy that passes everything through is compared with a
caller of the original. Every argument crosses the value boundary twice, once in the wrapper and
once in the thunk, and so does the result; in between lies the dispatch.

* `settleAll`, `normalAll` : host values in order, read back or with canonical bits.
* `Shows` : a typed call was a call of the function, up to the bits of a "not a number".

Results:
* `decodeFrom_encodeAll`: a thunk finds in the argument list what the wrapper put there.
* `surface_returnsDeclared`: the thunks return what their signatures declare.
* `observe_writeResult`: what is left of a result behind both sides of the boundary.
* `Intercepted.call`: an intercepted call is a call of the original, with arguments and result read
  back once.
* **`wrapper_substitutable`**: the wrapper method stands for the original.
-/

namespace Interpose

open Source HostType Expansion

/-! ## Typed values in order -/

/-- What is read back of host values once written. -/
def HostType.settleAll : (ts : List HostType) → Tuple ts → Tuple ts
  | [], _ => ()
  | t :: rest, (x, xs) => (t.settle x, settleAll rest xs)

/-- The host values with the canonical bits for every 32-bit "not a number" in them. -/
def HostType.normalAll : (ts : List HostType) → Tuple ts → Tuple ts
  | [], _ => ()
  | t :: rest, (x, xs) => (t.normal x, normalAll rest xs)

/-- **The argument at a position is what was written there**, whatever comes before, by induction
on the types. -/
theorem decodeFrom_encodeAll : ∀ (ts : List HostType) (xs : Tuple ts) (before : List Value)
    (supply : Supply), decodeFrom (before ++ ((encodeAll ts xs).run supply).1) ts before.length =
      .ok (settleAll ts xs)
  | [], _, _, _ => rfl
  | t :: rest, (x, xs), before, supply => by
    have hargs : ((encodeAll (t :: rest) (x, xs)).run supply).1 =
        t.written x supply :: ((encodeAll rest xs).run ((t.encode x).run supply).2).1 := rfl
    rw [hargs]
    have hfirst : argument t (before ++ t.written x supply ::
        ((encodeAll rest xs).run ((t.encode x).run supply).2).1) before.length =
          .ok (t.settle x) := by
      simp only [argument, List.getElem?_append_right (Nat.le_refl _), Nat.sub_self,
        List.getElem?_cons_zero, decode_written]
    have hrest := decodeFrom_encodeAll rest xs (before ++ [t.written x supply])
      ((t.encode x).run supply).2
    simp only [List.append_assoc, List.singleton_append, List.length_append,
      List.length_singleton] at hrest
    simp only [decodeFrom, hfirst, hrest, bind, Except.bind]
    rfl

theorem settleAll_of_keeps : ∀ (ts : List HostType), (∀ t ∈ ts, t.keeps = true) →
    ∀ xs : Tuple ts, settleAll ts xs = normalAll ts xs
  | [], _, _ => rfl
  | t :: rest, hts, (x, xs) => by
    obtain ⟨ht, hrest⟩ := List.forall_mem_cons.mp hts
    simp only [settleAll, normalAll, settle_of_keeps ht x, settleAll_of_keeps rest hrest xs]

theorem normalAll_normalAll : ∀ (ts : List HostType) (xs : Tuple ts),
    normalAll ts (normalAll ts xs) = normalAll ts xs
  | [], _ => rfl
  | t :: rest, (x, xs) => by
    simp only [normalAll, normal_normal, normalAll_normalAll rest xs]

namespace Expansion

variable {H S : Type} {scope : Scope} {lib : Library S}

/-! ## Results -/

/-- What is seen of a result, changed by a function of results. -/
def onResult {t : HostType} (g : t.Carrier → t.Carrier) :
    Completed (Except Error t.Carrier) → Completed (Except Error t.Carrier) :=
  Completed.map (Except.map g)

/-- **Behind both sides of the boundary a result is read back once**; errors and panics are as they
were. -/
theorem observe_writeResult (finish : Finish) (supply : Supply)
    (ended : Completed (Except Error finish.returns.Carrier))
    (hdeclared : ∀ e, ended = .returned (.error e) → finish.declares = some e.type) :
    finish.observe (writeResult finish.returns ended supply).1 =
      onResult finish.returns.settle ended := by
  cases ended with
  | panicked p => rfl
  | returned result =>
    cases result with
    | error e =>
      have htype := hdeclared e rfl
      show finish.complete (.error (.raised e)) = .returned (.error e)
      simp [Finish.complete, htype, completeFallible, Failure.downcast?]
    | ok y =>
      have hdecode : decodeResult finish.returns finish.method (finish.returns.written y supply) =
          .returned (finish.returns.settle y) := by
        simp only [decodeResult, decode_written]
      show finish.complete (.ok (finish.returns.written y supply)) =
        .returned (.ok (finish.returns.settle y))
      unfold Finish.complete complete completeFallible
      cases finish.declares <;> simp only [hdecode] <;> rfl

/-- What a type keeps of a result has the same canonical form. -/
theorem onResult_settle {t : HostType} (ht : t.keeps = true)
    (ended : Completed (Except Error t.Carrier)) :
    onResult t.normal (onResult t.settle ended) = onResult t.normal ended := by
  cases ended with
  | panicked p => rfl
  | returned result =>
    cases result with
    | error e => rfl
    | ok y =>
      show Completed.returned (Except.ok (t.normal (t.settle y))) = .returned (.ok (t.normal y))
      rw [settle_of_keeps ht, normal_normal]

/-! ## Thunks -/

/-- A thunk on written arguments calls the function on what is read back of them. -/
theorem ThunkCode.run_encoded (t : ThunkCode) (fn : TypedFunction S (hosts scope t.params)
    (t.output.returns scope) (t.output.declares scope)) (xs : Tuple (hosts scope t.params))
    (world : World S) (supply : Supply) :
    let ended := fn.run world.target (settleAll _ xs)
    let written := writeResult _ ended.1 world.supply
    (t.original scope fn).run world ((encodeAll _ xs).run supply).1 =
      (written.1, ⟨ended.2, written.2⟩) := by
  have hargs := decodeFrom_encodeAll _ xs [] supply
  rw [List.nil_append, List.length_nil] at hargs
  simp only [ThunkCode.original, hargs]

/-- A thunk returns what the type of its result accepts. -/
theorem ThunkCode.run_accepted (t : ThunkCode) (fn : TypedFunction S (hosts scope t.params)
    (t.output.returns scope) (t.output.declares scope)) {world : World S} {args : List Value}
    {v : Value} (h : ((t.original scope fn).run world args).1 = .ok v) :
    (t.output.returns scope).desc.accepts v = true := by
  simp only [ThunkCode.original] at h
  split at h
  · cases h
  · rename_i xs _
    cases hended : (fn.run world.target xs).1 with
    | panicked p =>
      rw [hended] at h
      cases h
    | returned result =>
      rw [hended] at h
      cases result with
      | error e => cases h
      | ok y =>
        cases h
        exact accepts_written _ y world.supply

/-! ## The declared surface -/

variable {settings : Settings} {block : Block} {e : Expansion} {all methods : List Shape}
  {s : Shape} {fn : Function} {i : Nat}

theorem output_isRepresentable (hr : s.isRepresentable = true) (hc : s.isConstructor = false) :
    s.output.isRepresentable = true := by
  simp only [Shape.isRepresentable, hc, Bool.false_or, Bool.and_eq_true] at hr
  exact hr.2.2

/-- The declared result of a method that is converted is that of its function. -/
theorem returns_ofShape (hr : s.output.isRepresentable = true) :
    ((SignatureCode.ofShape true s).signature scope).returns = (s.output.returns scope).desc := by
  show ((s.output.types.head?.map (TypeNote.ofType true)).map (TypeNote.desc scope)).getD .unit = _
  cases hout : s.output with
  | unit => rfl
  | plain t =>
    rw [hout] at hr
    have ht : t.isRepresentable = true := hr
    simp [Output.types, TypeNote.ofType, ht, TypeNote.desc, Output.returns]
  | fallible ok err =>
    rw [hout] at hr
    have hok : ok.isRepresentable = true := (Bool.and_eq_true_iff.mp hr).1
    simp [Output.types, TypeNote.ofType, hok, TypeNote.desc, Output.returns]

/-- **The thunks return what their signatures declare.** -/
theorem surface_returnsDeclared (hd : Declares e methods) :
    (e.surface scope lib).ReturnsDeclared := by
  intro m hm o ho state args v hv
  obtain ⟨s, hs, rfl⟩ := hd.exists_shape hm
  obtain ⟨t, ht, rfl⟩ := Option.map_eq_some_iff.mp ho
  obtain ⟨hconverted, hrep, rfl⟩ := thunk_eq_some ht
  have hsignature : ((MethodCode.ofShape s).method scope lib).signature =
      (SignatureCode.ofShape true s).signature scope :=
    congrArg (fun converted => (SignatureCode.ofShape converted s).signature scope) hconverted
  rw [hsignature, returns_ofShape (output_isRepresentable hrep (hd.no_constructor s hs))]
  exact ThunkCode.run_accepted _ _ hv

/-! ## One call -/

variable {f : Filter} {t : Target (World S)} {p : ProxyType (World S)}

/-- An intercepted method of the wrapper reaches its declaration, with the access that the thunk
needs. -/
theorem Intercepted.routed (h : Intercepted methods i s) (hd : Declares e methods)
    (hp : Generated (e.surface scope lib) f t p)
    (hnames : ((e.surface scope lib).methods.map (·.signature.name)).Nodup) (args : List Value)
    (finish : Finish) :
    TypedUse.Routed ⟨(WrapperCode.ofShape i s).access, i, args, finish⟩ p := by
  have hm : (e.surface scope lib).methods[i]? =
      some ((MethodCode.ofShape s).method scope lib) := hd.method h.declared
  have horiginal : ((MethodCode.ofShape s).method scope lib).original = some _ := h.original
  obtain ⟨route, he⟩ := entry_original hp hnames hm
  have hcallable : route ≠ .unavailable :=
    (callable_iff hp hm he).mpr ⟨receiver_ne_static h.takesReference, by rw [horiginal]; rfl⟩
  exact ⟨_, _, he, hcallable, horiginal, access_suffices i s _⟩

/-- **An intercepted call**: the original is called with what is read back of the arguments, and
what is read back of its result is seen. -/
theorem Intercepted.call (h : Intercepted methods i s) (hd : Declares e methods)
    (hp : Generated (e.surface scope lib) f t p) (hnames : (methods.map (·.name)).Nodup)
    (xs : Tuple (hosts scope s.params)) (world : World S) (hooks : H) :
    let called := (WrapperCode.ofShape i s).call scope lib p .passThrough xs world hooks
    let direct := (lib.method s.name _ (s.output.returns scope) (s.output.declares scope)).run
      world.target (settleAll _ xs)
    called.1 = onResult (s.output.returns scope).settle direct.1 ∧ called.2.target = direct.2 := by
  intro called direct
  let args := ((encodeAll (hosts scope s.params) xs).run world.supply).1
  let sent : World S :=
    { world with supply := ((encodeAll (hosts scope s.params) xs).run world.supply).2 }
  let finish := (WrapperCode.ofShape i s).finish scope
  let ending :=
    Instance.call ⟨p, sent⟩ .passThrough (WrapperCode.ofShape i s).access i args hooks
  have hcalled : called = (finish.observe ending.reply, ending.state) := by
    simp only [called, WrapperCode.call, h.index]
    rfl
  have hnodup : ((e.surface scope lib).methods.map (·.signature.name)).Nodup := hd.names ▸ hnames
  obtain ⟨o, ho, hseen, hleft⟩ := Instance.call_passed hp hnodup (surface_returnsDeclared hd)
    (h.routed hd hp hnodup args finish) sent hooks
  obtain rfl := Option.some.inj (ho.symm.trans (h.surface_original hd))
  have hrun := s.thunk.run_encoded
    (lib.method s.name (hosts scope s.params) (s.output.returns scope) (s.output.declares scope))
    xs sent world.supply
  rw [hcalled]
  constructor
  · show finish.observe ending.reply = _
    rw [hseen, hrun]
    exact observe_writeResult finish sent.supply direct.1 fun e he =>
      (lib.method s.name _ _ _).declared _ _ e he
  · show ending.state.target = _
    rw [hleft, hrun]

/-- A typed call showed and left what the function shows and leaves for the arguments, all of it up
to the bits of a 32-bit "not a number". -/
def Shows {params : List HostType} {returns : HostType} {declares : Option ErrorType}
    (fn : TypedFunction S params returns declares) (target : S) (xs : Tuple params)
    (seen : Completed (Except Error returns.Carrier)) (left : S) : Prop :=
  ∃ given, normalAll params given = normalAll params xs ∧
    (normalAll params xs = xs → given = xs) ∧
    onResult returns.normal seen = onResult returns.normal (fn.run target given).1 ∧
    left = (fn.run target given).2

/-- **The wrapper method stands for the original.** For every function that the wrapper can have
and that can be called through values, where no option in its parameters and result is applied
directly to a type with a null: called on a proxy that passes everything through, the wrapper
method shows what the original shows for the same arguments, and leaves the target as the original
does. Functions of one block have different names. -/
theorem wrapper_substitutable (he : expand settings block = .ok e)
    (hnames : (block.functions.map (·.name)).Nodup) (hfn : fn ∈ block.functions)
    (hs : Shape.ofFunction? e.simple fn = .ok s) (hskip : s.isSkipped = false)
    (hwrappable : s.isWrappable = true) (hrep : s.isRepresentable = true)
    (hparams : ∀ b ∈ s.params, (scope.host b.type).keeps = true)
    (hreturns : (s.output.returns scope).keeps = true) :
    ∃ i, WrapperCode.ofShape i s ∈ e.wrappers ∧
      ∀ f t p (icp : Interceptor H (World S)), Generated (e.surface scope lib) f t p →
        icp = .passThrough ∨ icp = .hooks none none →
        ∀ (xs : Tuple (hosts scope s.params)) (world : World S) (hooks : H),
          let called := (WrapperCode.ofShape i s).call scope lib p icp xs world hooks
          Shows (lib.method s.name _ (s.output.returns scope) (s.output.declares scope))
            world.target xs called.1 called.2.target := by
  obtain ⟨all, hall, hd⟩ := declares_of_expand he
  have htakes := takesReference_of_isWrappable hwrappable
  have hctor := isConstructor_eq_false hs (receiver_ne_static htakes)
  have hmem := mem_declaredMethods.mpr ⟨mem_shapes hall hfn hs, hskip, hctor⟩
  obtain ⟨i, hi⟩ := List.getElem?_of_mem hmem
  refine ⟨i, hd.wrapper_mem hi hwrappable, ?_⟩
  intro f t p icp hp hicp xs world hooks called
  obtain rfl : icp = .passThrough := by
    rcases hicp with h | h
    · exact h
    · rw [h, Interceptor.hooks_none]
  by_cases hcandidate : s.isCandidate = true
  · have hintercepted : Intercepted (declaredMethods all) i s := ⟨hi, hcandidate, htakes, hrep⟩
    obtain ⟨hseen, hleft⟩ :=
      hintercepted.call hd hp (names_nodup hall hnames) xs world hooks
    have hkeeps : ∀ t ∈ hosts scope s.params, t.keeps = true := List.forall_mem_map.mpr hparams
    rw [settleAll_of_keeps _ hkeeps] at hseen hleft
    refine ⟨normalAll _ xs, normalAll_normalAll _ xs, id, ?_, hleft⟩
    exact (congrArg (onResult (s.output.returns scope).normal) hseen).trans
      (onResult_settle hreturns _)
  · -- A method that is never overridden is called on the target.
    have hindex : (WrapperCode.ofShape i s).index = none :=
      if_neg fun h => hcandidate (Bool.and_eq_true_iff.mp h).1
    refine ⟨xs, rfl, fun _ => rfl, ?_⟩
    simp only [called, WrapperCode.call, hindex]
    exact ⟨rfl, rfl⟩

/-! ## A counter of items -/

/-- `Option<t>`. -/
def optionOf (t : Ty) : Ty := .path false [.applied "Option" false [.type t] false]

/-- An exported method with one parameter `item`, which answers with a truth value. -/
def counterMethod (name : String) (exclusive : Bool) (type : Ty) : Function :=
  { (default : Function) with
    visibility := .exported
    name
    receiver := some ⟨[], .reference none exclusive⟩
    parameters := [⟨[], [.word "item"], type⟩]
    result := some (.named "bool") }

/-- `fn count(&mut self, item: Option<u8>) -> bool`. -/
def countMethod : Function := counterMethod "count" true (optionOf (.named "u8"))

/-- `fn is_some(&self, item: Option<Option<u8>>) -> bool`. -/
def isSomeMethod : Function := counterMethod "is_some" false (optionOf (optionOf (.named "u8")))

/-- A counter with both methods and a constructor. -/
def counterBlock : Block :=
  { (default : Block) with
    selfType := .named "Counter"
    items := [
      .function { (default : Function) with
        visibility := .exported, name := "new", result := some (.named "Self") },
      .function countMethod, .function isSomeMethod] }

/-- The shape of a method of the counter. -/
def counterShape (fn : Function) : Shape := .ofFunction "Counter" fn ⟨false, false⟩

def counterScope : Scope := .standard ⟨0, "tests::Counter"⟩ fun _ => .value

/-- Both methods tell whether there is an item, and `count` counts it. -/
def counterLibrary : Library Nat where
  method name params returns _ :=
    match params, returns with
    | [.option _], .bool =>
      { run := fun n xs => (.returned (.ok xs.1.isSome),
          if name = "count" && xs.1.isSome then n + 1 else n)
        declared := fun _ _ _ h => by cases h }
    | _, _ =>
      { run := fun n _ => (.panicked (.literal "not implemented"), n)
        declared := fun _ _ _ h => by cases h }
  constructor _ _ _ := .returned (.ok 0)

/-- Counting an item through a proxy. -/
theorem wrapper_counts :
    let s := counterShape countMethod
    ∃ e i t p, expand .none counterBlock = .ok e ∧
      Generated (e.surface counterScope counterLibrary) .all t p ∧
      WrapperCode.ofShape i s ∈ e.wrappers ∧
      let xs : Tuple (hosts counterScope s.params) := (some ⟨7, by decide⟩, ())
      let called := (WrapperCode.ofShape i s).call counterScope counterLibrary p
        (.hooks none none : Interceptor Unit (World Nat)) xs ⟨0, 0⟩ ()
      called.1 = .returned (.ok true) ∧ called.2.target = 1 := by
  intro s
  obtain ⟨e, t, p, he, hself, hp⟩ : ∃ e t p, expand .none counterBlock = .ok e ∧
      e.simple = "Counter" ∧ Generated (e.surface counterScope counterLibrary) .all t p :=
    ⟨_, _, _, rfl, rfl, rfl, ⟨0, "tests::Noop"⟩, .standard, 0, rfl⟩
  have hs : Shape.ofFunction? e.simple countMethod = .ok s := by
    rw [hself]
    rfl
  obtain ⟨i, hmem, hcall⟩ := @wrapper_substitutable Unit Nat counterScope counterLibrary _ _ _ _ _
    he (by decide) (List.mem_cons_of_mem _ List.mem_cons_self) hs rfl (by decide) (by decide)
    (by decide) rfl
  refine ⟨e, i, t, p, he, hp, hmem, ?_⟩
  obtain ⟨given, -, hgiven, hseen, hleft⟩ :=
    hcall .all t p (.hooks none none) hp (.inr rfl) (some ⟨7, by decide⟩, ()) ⟨0, 0⟩ ()
  obtain rfl := hgiven rfl
  have hsame : ∀ ended : Completed (Except Error HostType.bool.Carrier),
      onResult HostType.bool.normal ended = ended := by
    rintro ((e | answer) | p) <;> rfl
  exact ⟨(hsame _).symm.trans hseen, hleft⟩

/-- **An option in an option is lost**: `Some(None)` is counted as an item by the original, but
reaches it as no item through a proxy. -/
theorem nested_option_lost :
    let s := counterShape isSomeMethod
    ∃ e t p, expand .none counterBlock = .ok e ∧
      Generated (e.surface counterScope counterLibrary) .all t p ∧
      isSomeMethod ∈ counterBlock.functions ∧ Shape.ofFunction? e.simple isSomeMethod = .ok s ∧
      s.isWrappable = true ∧ s.isRepresentable = true ∧ WrapperCode.ofShape 1 s ∈ e.wrappers ∧
      let xs : Tuple (hosts counterScope s.params) := (some none, ())
      ((WrapperCode.ofShape 1 s).call counterScope counterLibrary p
        (.passThrough : Interceptor Unit (World Nat)) xs ⟨0, 0⟩ ()).1 = .returned (.ok false) ∧
      ((counterLibrary.method s.name _ (s.output.returns counterScope)
        (s.output.declares counterScope)).run 0 xs).1 = .returned (.ok true) := by
  refine ⟨_, _, _, rfl, ⟨rfl, ⟨0, "tests::Noop"⟩, .standard, 0, rfl⟩, ?_, rfl, by decide, by decide,
    ?_, rfl, rfl⟩
  · exact List.mem_cons_of_mem _ (List.mem_cons_of_mem _ List.mem_cons_self)
  · exact List.mem_cons_of_mem _ List.mem_cons_self

end Expansion

end Interpose
