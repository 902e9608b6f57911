import Interpose.Bound
import Interpose.Completion
import Interpose.Proofs.Conversion.Decoding
import Interpose.Proofs.Dispatch.ByName

/-!
# What stands before a call by name

A call by name is refused when the name stands for no method that can be called, or when the
arguments do not fit the first such method. What is not refused is a call whose arguments fit, and
they are passed on as they are: to the hooks, and to the code that runs in the end. That need not be
the code that the method was declared with, but it is code for parameters of the same types.

* `Surface.callable?` : the method that a name stands for, read off the declaration alone.
* `Param.Fit` : arguments that fit parameters, one for one.
* `Guarded` has one rule per answer to a call by name, `Delivered` says what a call that was not
  refused has passed on.

Results:
* `argument_of_fit`: typed code finds every argument, and is stopped by its range alone, where no
  two types of objects share a name.
* `Handling.faithful`: what the steps of a call show, and whose code runs.
* `invoke_cases`: the rules cover every call by name.
* **`invoke_guarded`**: when a call by name is refused, that nothing comes of it then, and what is
  passed on otherwise.
-/

namespace Interpose

variable {κ H S : Type}

/-! ## Arguments that fit -/

/-- The arguments fit the parameters: there are as many, and each has the shape of its parameter. -/
def Param.Fit (params : List Param) (args : List Value) : Prop :=
  List.Forall₂ (fun q v => q.type.accepts v = true) params args

variable {params : List Param} {args : List Value}

theorem Param.accept_iff : Param.accept params args = true ↔ Param.Fit params args := by
  unfold Param.accept Param.Fit
  rw [List.forall₂_iff_zip, Bool.and_eq_true, beq_iff_eq, List.all_eq_true, Prod.forall]
  exact and_congr_left fun _ => eq_comm

/-- **Typed code finds an argument** of its type wherever the arguments fit, or one that is out of
its range. -/
theorem argument_of_fit (hfit : Param.Fit params args) {i : Nat} {q : Param}
    (hq : params[i]? = some q) {R : HostType} (hR : R.desc = q.type)
    (hnames : ∀ v, args[i]? = some v → NamesApart R v) :
    (∃ x, argument R args i = .ok x) ∨
      ∃ target text, argument R args i = .error (.raised (.conversion (.outOfRange target text))) := by
  obtain ⟨hi, rfl⟩ := List.getElem?_eq_some_iff.mp hq
  have hi' : i < args.length := hfit.length_eq ▸ hi
  have hv : args[i]? = some args[i] := List.getElem?_eq_getElem hi'
  have haccepts : R.desc.accepts args[i] = true := by
    rw [hR]
    exact hfit.get hi hi'
  unfold argument
  simp only [hv]
  cases hdecode : R.decode args[i] with
  | ok x => exact .inl ⟨x, rfl⟩
  | error e =>
    obtain ⟨target, text, rfl⟩ := outOfRange_of_accepts (hnames _ hv) haccepts hdecode
    exact .inr ⟨target, text, rfl⟩

/-! ## The method that a name stands for -/

/-- Can the method be called by the name? -/
def Method.answers (name : String) (m : Method S) : Bool :=
  m.signature.name = name && !m.signature.isStatic && m.original.isSome

/-- The first declared method that can be called by the name. -/
def Surface.callable? (d : Surface S) (name : String) : Option (Method S) :=
  d.methods.find? (Method.answers name)

variable {d : Surface S} {f : Filter} {t : Target S} {p : ProxyType S} {name : String}

theorem target_of_generated (hp : Generated d f t p) : p.target = d.qualified := by
  obtain ⟨hd, interceptor, options, serial, hs⟩ := hp
  obtain rfl := describe_ok hd
  obtain ⟨a, -, rfl⟩ := synthesize_eq_ok hs
  rfl

/-- Rows and declared methods can be called by the same names. -/
theorem entries_answers (hp : Generated d f t p) (name : String) :
    p.entries.map (Entry.answers name) = d.methods.map (Method.answers name) := by
  apply List.ext_getElem (by simp [entries_length hp])
  intro i hi hi'
  rw [List.length_map] at hi hi'
  have he : p.entries[i]? = some p.entries[i] := List.getElem?_eq_getElem hi
  have hm : d.methods[i]? = some d.methods[i] := List.getElem?_eq_getElem hi'
  rw [List.getElem_map, List.getElem_map, Bool.eq_iff_iff, Entry.answers_iff,
    callable_iff hp hm he, (entryOf_getElem hp hm he).signature]
  simp [Method.answers, Signature.isStatic, and_assoc]

/-- The table of names holds the positions of the methods that names stand for. -/
theorem indexOf?_eq_methods (hp : Generated d f t p) (name : String) :
    p.indexOf? name = d.methods.findIdx? (Method.answers name) := by
  have hid {α : Type} (g : α → Bool) (l : List α) : l.findIdx? g = (l.map g).findIdx? id := by
    rw [List.findIdx?_map]
    rfl
  rw [indexOf?_eq_findIdx? hp, hid, entries_answers hp, ← hid]

/-- A name stands for no method, or for the one at its position, whose signature it has. -/
theorem callable?_cases (hp : Generated d f t p) (name : String) :
    (d.callable? name = none ∧ p.indexOf? name = none) ∨
      ∃ i m, d.callable? name = some m ∧ d.methods[i]? = some m ∧ p.indexOf? name = some i ∧
        p.method? name = some m.signature := by
  unfold Surface.callable?
  rw [List.find?_eq_bind_findIdx?_getElem?]
  cases hi : d.methods.findIdx? (Method.answers name) with
  | none => exact .inl ⟨rfl, (indexOf?_eq_methods hp name).trans hi⟩
  | some i =>
    obtain ⟨hlt, -⟩ := List.findIdx?_eq_some_iff_getElem.mp hi
    have hm : d.methods[i]? = some d.methods[i] := List.getElem?_eq_getElem hlt
    have hindex : p.indexOf? name = some i := (indexOf?_eq_methods hp name).trans hi
    obtain ⟨e, he, -⟩ := entry_of_indexOf? hp hindex
    refine .inr ⟨i, d.methods[i], by rw [Option.bind_some, hm], hm, hindex, ?_⟩
    rw [ProxyType.method?, hindex, Option.bind_some, he, Option.map_some,
      (entryOf_getElem hp hm he).signature]

/-! ## What is passed on -/

/-- The step shows nothing but the arguments, to hooks and to code, and what runs is `o`. -/
def Step.Faithful (o : Original S) (args : List Value) : Step S → Prop
  | .before call _ => call.args = args
  | .original start given reply left => given = args ∧ o.run start given = (reply, left)
  | .after call _ _ => call.args = args
  | .event _ => True

variable {icp : Interceptor H S} {s : Signature} {o : Original S} {access : Access} {state : S}
  {hooks : H} {i : Nat}

theorem Turn.faithful {proceed : Bool} {ran : List (Step S)} {left : S}
    {result : Except Payload Outcome} (ht : Turn p s o access args state proceed ran left result) :
    ∀ step ∈ ran, step.Faithful o args := by
  cases ht <;> simp_all [Step.Faithful]

theorem call_faithful (o : Original S) (access : Access) (method : String) (state : S)
    (args : List Value) : ∀ step ∈ (o.call access method state args).2.2, step.Faithful o args := by
  cases hs : access.suffices o.needs with
  | true => simp [call_of_suffices hs, Step.Faithful]
  | false => simp [call_of_not_suffices hs]

theorem Protocol.faithful {reply : Reply Value} {left : S} {h : H} {acts : List (Step S)}
    (hp : Protocol p icp s o access args state hooks reply left h acts) :
    ∀ step ∈ acts, step.Faithful o args := by
  cases hp with
  | refused hb => simp [Step.Faithful, seen]
  | burst hb => simp [Step.Faithful, seen]
  | escaped hb ht => simpa [Step.Faithful, seen] using ht.faithful
  | settled hb ht ha =>
    have hran := ht.faithful
    simp only [List.cons_append, List.forall_mem_cons, List.forall_mem_append, Step.Faithful, seen,
      true_and]
    exact ⟨hran, by simp⟩

/-- Log events show nothing. -/
theorem faithful_of_acts {steps : List (Step S)}
    (h : ∀ step ∈ steps.filter Step.isAct, step.Faithful o args) :
    ∀ step ∈ steps, step.Faithful o args := by
  intro step hstep
  cases step with
  | event e => trivial
  | _ => exact h _ (List.mem_filter.mpr ⟨hstep, rfl⟩)

/-- **A call shows the arguments** that it was made with, and runs the code of its row. -/
theorem Handling.faithful {ending : Ending H S}
    (h : Handling p icp access i args state hooks ending) {e : Entry S}
    (he : p.entries[i]? = some e) (ho : e.original = some o) :
    ∀ step ∈ ending.steps, step.Faithful o args := by
  cases h with
  | unknown _ => simp
  | unroutable _ _ => simp
  | @direct e o he' ho' _ =>
    cases he.symm.trans he'
    cases ho.symm.trans ho'
    exact call_faithful o access e.signature.name state args
  | intercepted he' ho' _ =>
    cases he.symm.trans he'
    cases ho.symm.trans ho'
    exact faithful_of_acts (intercept_protocol ..).faithful

/-! ## Calls by name -/

/-- **What a call that was not refused has passed on**, as a call of the declared method `m`. -/
structure Delivered (d : Surface S) (m : Method S) (args : List Value) (ending : Ending H S) :
    Prop where
  /-- Hooks and code have seen the arguments. What has run, if anything has, is the code of a
  declared method of the same name, parameters and result. -/
  code : ∃ source ∈ d.methods, ∃ o, source.original = some o ∧
    source.signature.name = m.signature.name ∧
    source.signature.sameShape m.signature = true ∧
    ∀ step ∈ ending.steps, step.Faithful o args
  /-- Typed code finds an argument of the declared type for every parameter, where the types of
  objects are told apart by their names; only a number may be out of range. -/
  found : ∀ i q, m.signature.params[i]? = some q → ∀ R : HostType, R.desc = q.type →
    (∀ v, args[i]? = some v → NamesApart R v) → (∃ x, argument R args i = .ok x) ∨
      ∃ target text, argument R args i = .error (.raised (.conversion (.outOfRange target text)))

/-- **How a call by name is answered.** -/
inductive Guarded (d : Surface S) (name : String) (args : List Value) :
    Except ProxyError (Ending H S) → Prop
  | unknown (hnone : d.callable? name = none) :
    Guarded d name args (.error (.noSuchMethod d.qualified name))
  | misfit {m : Method S} (hm : d.callable? name = some m)
    (hfit : ¬ Param.Fit m.signature.params args) :
    Guarded d name args (.error (.invalidArguments name
      (", ".intercalate (m.signature.params.map fun q => q.type.text)) (Value.typeNames args)))
  | delivered {m : Method S} {ending : Ending H S} (hm : d.callable? name = some m)
    (hfit : Param.Fit m.signature.params args) (h : Delivered d m args ending) :
    Guarded d name args (.ok ending)

/-- A call of a method that can be called passes on arguments that fit. -/
theorem delivered_of_fit (hp : Generated d f t p) {m : Method S} (hm : d.methods[i]? = some m)
    (hreceiver : m.signature.receiver ≠ .static) (hcode : m.original.isSome = true)
    (hfit : Param.Fit m.signature.params args) :
    Delivered d m args (dispatch p icp access i args state hooks) := by
  obtain ⟨e, o, he, -, ho, source, hmem, hsource, hname, hshape⟩ :=
    code_of_callable hp hm hreceiver hcode
  exact ⟨⟨source, hmem, o, hsource, hname, hshape, (dispatch_handling ..).faithful he ho⟩,
    fun j q hq R hR hnames => argument_of_fit hfit hq hR hnames⟩

/-- A name that stands for no method is refused. -/
theorem invoke_of_callable?_eq_none (hp : Generated d f t p) (hnone : d.callable? name = none) :
    Instance.invoke ⟨p, state⟩ icp name args hooks = .error (.noSuchMethod d.qualified name) := by
  rcases callable?_cases hp name with ⟨-, hindex⟩ | ⟨_, _, hsome, -⟩
  · rw [invoke_of_indexOf?_eq_none hindex, target_of_generated hp]
  · cases hnone.symm.trans hsome

/-- **The rules cover every call by name.** -/
theorem invoke_cases (hp : Generated d f t p) (icp : Interceptor H S) (name : String)
    (args : List Value) (state : S) (hooks : H) :
    Guarded d name args (Instance.invoke ⟨p, state⟩ icp name args hooks) := by
  rcases callable?_cases hp name with ⟨hnone, -⟩ | ⟨i, m, hcallable, hm, hindex, hsig⟩
  · rw [invoke_of_callable?_eq_none hp hnone]
    exact .unknown hnone
  · have ha : m.answers name = true := List.find?_some hcallable
    simp only [Method.answers, Signature.isStatic, Bool.and_eq_true, Bool.not_eq_eq_eq_not,
      Bool.not_true, decide_eq_true_eq, decide_eq_false_iff_not] at ha
    by_cases hfit : Param.Fit m.signature.params args
    · have haccepts : ∀ s, p.method? name = some s → s.acceptsArgs args = true := by
        intro s hs
        cases hsig.symm.trans hs
        exact Param.accept_iff.mpr hfit
      rw [invoke_of_indexOf? hindex haccepts]
      exact .delivered hcallable hfit (delivered_of_fit hp hm ha.1.2 ha.2 hfit)
    · have hrefused : Instance.invoke ⟨p, state⟩ icp name args hooks = .error
          (.invalidArguments name (", ".intercalate (m.signature.params.map fun q => q.type.text))
            (Value.typeNames args)) := by
        have hno : ¬ m.signature.acceptsArgs args = true := fun h => hfit (Param.accept_iff.mp h)
        unfold Instance.invoke ProxyType.resolve
        simp only [hindex, hsig, if_neg hno]
        rfl
      rw [hrefused]
      exact .misfit hcallable hfit

/-- No method can be called by the name. -/
theorem callable?_eq_none (d : Surface S) (name : String) : d.callable? name = none ↔
    ∀ m ∈ d.methods, m.signature.name = name →
      ¬ (m.signature.receiver ≠ .static ∧ m.original.isSome = true) := by
  unfold Surface.callable? Method.answers Signature.isStatic
  simp only [List.find?_eq_none, Bool.and_eq_true, decide_eq_true_eq, Bool.not_eq_eq_eq_not,
    Bool.not_true, decide_eq_false_iff_not, and_assoc, not_and, ne_eq]

/-- **What stands before a call by name**, on every generated type and for every interceptor and
state. The call is refused as unknown iff no declared method of the name is an instance method with
code, and for its arguments iff they do not fit the first one that is; what is not refused is
delivered. A refused call leaves everything as it was, and nothing happens in it. -/
theorem invoke_guarded (hp : Generated d f t p) (icp : Interceptor H S) (b : Bound κ S)
    (hb : b.inst.proxyType = p) (hooks : H) (name : String) (args : List Value) :
    let answer := b.inst.invoke icp name args hooks
    Guarded d name args answer ∧
    ((∃ target, answer = .error (.noSuchMethod target name)) ↔
      ∀ m ∈ d.methods, m.signature.name = name →
        ¬ (m.signature.receiver ≠ .static ∧ m.original.isSome = true)) ∧
    ((∃ expected got, answer = .error (.invalidArguments name expected got)) ↔
      ∃ m, d.callable? name = some m ∧ ¬ Param.Fit m.signature.params args) ∧
    ∀ e, answer = .error e →
      b.apply icp hooks (.invoke name args) = ⟨b, hooks, .refused e, []⟩ := by
  intro answer
  have hcases : Guarded d name args answer := by
    have h := invoke_cases hp icp name args b.inst.state hooks
    subst hb
    exact h
  have happly : ∀ e, answer = .error e →
      b.apply icp hooks (.invoke name args) = ⟨b, hooks, .refused e, []⟩ := by
    intro e he
    have he' : b.inst.invoke icp name args hooks = .error e := he
    simp only [Bound.apply, he']
  rw [← callable?_eq_none]
  generalize answer = answered at hcases happly
  refine ⟨hcases, ?_, ?_, happly⟩
  · cases hcases with
    | unknown hnone => simp [hnone]
    | misfit hm hfit => simp [hm]
    | delivered hm hfit h => simp [hm]
  · cases hcases with
    | unknown hnone => simp [hnone]
    | misfit hm hfit => simp [hm, hfit]
    | delivered hm hfit h => simp [hm, hfit]

/-- A tank that is filled by octets. A static method of the same name comes first, and the one that
fills it is declared twice: calls of the second would run the first. -/
def tank : Surface Nat where
  type := ⟨2, "tests::Tank"⟩
  qualified := "tests::Tank"
  simple := "Tank"
  isSealed := false
  constructors := [⟨"new", [], .exported, some fun _ => .ok 0⟩]
  methods :=
    [⟨⟨"fill", [], .unit, none, .static, .exported, false⟩, none⟩,
     ⟨⟨"fill", [⟨"by", .uint "u8"⟩], .unit, none, .exclusive, .exported, false⟩,
      some ⟨.exclusive, fun n _ => (.ok .null, n + 1)⟩⟩,
     ⟨⟨"fill", [⟨"amount", .uint "u8"⟩], .unit, none, .exclusive, .exported, false⟩,
      some ⟨.exclusive, fun n _ => (.ok .null, n + 2)⟩⟩]

/-- A tank is not emptied, and not filled by nothing. Filled by 300 it comes to its code, which
finds an octet out of range. -/
theorem invoke_guarded_tank : ∃ t p, Generated tank .all t p ∧
    let b : Bound Unit Nat := ⟨⟨p, 7⟩, ()⟩
    let icp : Interceptor Unit Nat := .passThrough
    (∃ target, b.inst.invoke icp "empty" [] () = .error (.noSuchMethod target "empty")) ∧
    (∃ expected got,
      b.inst.invoke icp "fill" [] () = .error (.invalidArguments "fill" expected got)) ∧
    b.apply icp () (.invoke "fill" []) =
      ⟨b, (), .refused (.invalidArguments "fill" "u8" ""), []⟩ ∧
    Guarded tank "fill" [.uint 300] (b.inst.invoke icp "fill" [.uint 300] ()) ∧
    (b.inst.invoke icp "fill" [.uint 300] ()).map (·.state) = .ok 8 ∧
    argument (.integer .u8) [.uint 300] 0 =
      .error (.raised (.conversion (.outOfRange "u8" "300"))) := by
  have hp : Generated tank .all _ _ := ⟨rfl, ⟨0, "tests::Noop"⟩, .standard, 0, rfl⟩
  refine ⟨_, _, hp, ?_⟩
  intro b icp
  have hguarded := invoke_guarded hp icp b rfl ()
  refine ⟨(hguarded "empty" []).2.1.mpr (by decide), (hguarded "fill" []).2.2.1.mpr ?_,
    (hguarded "fill" []).2.2.2 _ rfl, (hguarded "fill" [.uint 300]).1, rfl, rfl⟩
  exact ⟨tank.methods[1], rfl, nofun⟩

/-- An archive that takes orders as objects. Its code reads the argument first. -/
def archive : Surface Nat where
  type := ⟨3, "tests::Archive"⟩
  qualified := "tests::Archive"
  simple := "Archive"
  isSealed := false
  constructors := [⟨"new", [], .exported, some fun _ => .ok 0⟩]
  methods :=
    [⟨⟨"file", [⟨"order", .object "app::Order"⟩], .unit, none, .exclusive, .exported, false⟩,
      some ⟨.exclusive, fun n args =>
        match argument (.object ⟨5, "app::Order"⟩) args 0 with
        | .ok _ => (.ok .null, n + 1)
        | .error f => (.failed f, n)⟩⟩]

/-- **Two types of objects of one name**, and the archive is given an object of the other one. The
argument fits and comes to the code, which finds that it is of the wrong type. -/
theorem archive_misreads : ∃ t p, Generated archive .all t p ∧
    let order : HostType := .object ⟨5, "app::Order"⟩
    let given : List Value := [.object ⟨⟨6, "app::Order"⟩, "tea", 0⟩]
    let mistaken : Failure := .raised (.conversion (.mismatch "app::Order" "app::Order"))
    (∃ m q, archive.callable? "file" = some m ∧ m.signature.params[0]? = some q ∧
      order.desc = q.type ∧ Param.Fit m.signature.params given) ∧
    (∃ ending, Instance.invoke ⟨p, 7⟩ (.passThrough : Interceptor Unit Nat) "file" given () =
      .ok ending ∧ .original 7 given (.failed mistaken) 7 ∈ ending.steps) ∧
    argument order given 0 = .error mistaken := by
  have hp : Generated archive .all _ _ := ⟨rfl, ⟨0, "tests::Noop"⟩, .standard, 0, rfl⟩
  refine ⟨_, _, hp, ?_⟩
  intro order given mistaken
  obtain ⟨haccepts, hdecode⟩ := mismatch_of_namesake ⟨5, "app::Order"⟩
    ⟨⟨6, "app::Order"⟩, "tea", 0⟩ rfl (by decide)
  refine ⟨⟨archive.methods[0], ⟨"order", .object "app::Order"⟩, rfl, rfl, rfl, ?_⟩, ?_, ?_⟩
  · exact .cons haccepts .nil
  · exact ⟨_, rfl, List.mem_of_getElem? (i := 2) rfl⟩
  · simp [argument, given, order, hdecode, mistaken]

end Interpose
