import Interpose.Completion
import Interpose.Proofs.Conversion.Decoding
import Interpose.Proofs.Dispatch.Protocol

/-!
# What the caller observes

The hook after has the last word on an intercepted call, and the dispatcher checks a value of it
against the declared result. Typed code decodes the value that comes back; the check and the
decoding look at one shape, so of what passes the check only a number can still be refused. The
check knows the types of objects by their names and decoding does not: this takes that no two types
share one.

* `Verdict` has one rule per way in which the answer of the hook after reaches the caller. What the
  original did is in none of them.
* `Finished` has one rule per way in which typed code can end. A value of the wrong shape is in none
  of them.

Results:
* `Protocol.verdict`: the caller gets the verdict on the answer of the hook after.
* `Protocol.accepts`: a value that reaches the caller has the declared shape.
* `finished_observe`, `not_finished_of_mismatch`: typed code finishes by the rules, unless the value
  is of another type.
* **`intercepted_observation`**: both for calls by index, up to the end of the typed code.
-/

namespace Interpose

variable {H S : Type}

/-- **The verdict on an answer** of the hook after, given the signature of the method. -/
inductive Verdict (s : Signature) : Reply Value → Reply Value → Prop
  | accepted {v : Value} (h : s.returns.accepts v = true) : Verdict s (.ok v) (.ok v)
  | mismatched {v : Value} (h : s.returns.accepts v = false) :
    Verdict s (.ok v)
      (.failed (.raised (.dispatch (.returnMismatch s.name s.returns.text v.typeName))))
  /-- A failure of the hook after replaces whatever failed before. -/
  | failed (f : Failure) : Verdict s (.failed f) (.failed f)
  | panicked (payload : Payload) : Verdict s (.panicked payload) (.panicked payload)

namespace Finish

/-- The panic that reports a value that does not decode. -/
def incompatible (f : Finish) (e : ConversionError) : Payload :=
  .owned (s!"proxy method '{f.method}' produced an incompatible value: " ++ e.message)

/-- The panic that reports a failure that the method does not declare. -/
def undeclared (f : Finish) (e : Error) : Payload :=
  .owned (s!"undeclared failure from proxy method '{f.method}': " ++ e.text)

end Finish

/-- **How typed code finishes an intercepted call**, given how the call ended. -/
inductive Finished (f : Finish) : Reply Value → f.Seen → Prop
  | returned {v : Value} {x : f.returns.Carrier} (h : f.returns.decode v = .ok x) :
    Finished f (.ok v) (.returned (.ok x))
  /-- The only values that are incompatible are numbers out of range. -/
  | outOfRange {v : Value} {target text : String}
    (h : f.returns.decode v = .error (.outOfRange target text)) :
    Finished f (.ok v) (.panicked (f.incompatible (.outOfRange target text)))
  | declared {e : Error} (h : f.declares = some e.type) :
    Finished f (.failed (.raised e)) (.returned (.error e))
  | undeclared {e : Error} (h : f.declares ≠ some e.type) :
    Finished f (.failed (.raised e)) (.panicked (f.undeclared e))
  /-- A captured panic goes on with what it carried. -/
  | resumed (payload : Payload) : Finished f (.failed (.panicked payload)) (.panicked payload)
  | unwound (payload : Payload) : Finished f (.panicked payload) (.panicked payload)

variable {p : ProxyType S} {icp : Interceptor H S} {s : Signature} {o : Original S}
  {access : Access} {args : List Value} {state : S} {hooks : H}

/-! ## The verdict -/

theorem verdict_checkReturn (s : Signature) (answer : Reply Value) :
    Verdict s answer (answer.bind (checkReturn s)) := by
  cases answer with
  | ok v =>
    show Verdict s (.ok v) (checkReturn s v)
    unfold checkReturn
    split
    · rename_i h
      exact .accepted h
    · rename_i h
      exact .mismatched (Bool.eq_false_iff.mpr h)
  | failed f => exact .failed f
  | panicked payload => exact .panicked payload

theorem Verdict.accepts {answer : Reply Value} {v : Value} (h : Verdict s answer (.ok v)) :
    s.returns.accepts v = true := by
  cases h with
  | accepted h => exact h

/-- The middle of a call does not ask the hook after. -/
theorem Turn.after_not_mem {proceed : Bool} {ran : List (Step S)} {left : S}
    {result : Except Payload Outcome} (ht : Turn p s o access args state proceed ran left result)
    (call : Invocation S) (outcome : Outcome) (answer : Reply Value) :
    .after call outcome answer ∉ ran := by
  cases ht <;> simp

/-- **The caller gets the verdict** on the answer of the hook after, whatever the original did. -/
theorem Protocol.verdict {reply : Reply Value} {left : S} {h : H} {acts : List (Step S)}
    {call : Invocation S} {outcome : Outcome} {answer : Reply Value}
    (hp : Protocol p icp s o access args state hooks reply left h acts)
    (hasked : .after call outcome answer ∈ acts) : Verdict s answer reply := by
  cases hp with
  | refused hb => simp at hasked
  | burst hb => simp at hasked
  | escaped hb ht => simp [ht.after_not_mem] at hasked
  | settled hb ht ha =>
    simp only [List.cons_append, List.mem_cons, List.mem_append, ht.after_not_mem, reduceCtorEq,
      false_or, Step.after.injEq, List.not_mem_nil, or_false] at hasked
    obtain ⟨-, -, rfl⟩ := hasked
    exact verdict_checkReturn s answer

/-- A value that reaches the caller has passed the check. -/
theorem Protocol.accepts {reply : Reply Value} {v : Value} {left : S} {h : H}
    {acts : List (Step S)} (hp : Protocol p icp s o access args state hooks reply left h acts)
    (hv : reply = .ok v) : s.returns.accepts v = true := by
  cases hp with
  | refused hb => cases hv
  | burst hb => cases hv
  | escaped hb ht => cases hv
  | @settled _ _ _ _ _ _ answer hb ht ha =>
    have hverdict := verdict_checkReturn s answer
    rw [hv] at hverdict
    exact hverdict.accepts

/-! ## Finishing a call -/

theorem Finish.observe_ok (f : Finish) (v : Value) :
    f.observe (.ok v) = (decodeResult f.returns f.method v).map .ok := by
  unfold Finish.observe Finish.complete
  cases f.declares <;> rfl

theorem Finish.observe_decoded (f : Finish) {v : Value} {x : f.returns.Carrier}
    (h : f.returns.decode v = .ok x) : f.observe (.ok v) = .returned (.ok x) := by
  rw [observe_ok, decodeResult, h]
  rfl

theorem Finish.observe_incompatible (f : Finish) {v : Value} {e : ConversionError}
    (h : f.returns.decode v = .error e) : f.observe (.ok v) = .panicked (f.incompatible e) := by
  rw [observe_ok, decodeResult, h]
  rfl

theorem Finish.observe_raised (f : Finish) (e : Error) :
    f.observe (.failed (.raised e)) =
      if f.declares = some e.type then .returned (.error e) else .panicked (f.undeclared e) := by
  unfold Finish.observe Finish.complete
  cases f.declares with
  | none => rfl
  | some error =>
    by_cases h : e.type = error
    · simp [completeFallible, Failure.downcast?, h]
    · have h' : error ≠ e.type := fun heq => h heq.symm
      simp [completeFallible, Failure.downcast?, h, h', unwind, undeclared]

/-- A panic is passed on, captured or not. -/
theorem Finish.observe_panic (f : Finish) (payload : Payload) :
    f.observe (.failed (.panicked payload)) = .panicked payload ∧
      f.observe (.panicked payload) = .panicked payload := by
  unfold Finish.observe Finish.complete
  cases f.declares <;> exact ⟨rfl, rfl⟩

/-- **Typed code finishes so** when a value that comes back has the shape of its result type. -/
theorem finished_observe (f : Finish) (reply : Reply Value)
    (hshape : ∀ v, reply = .ok v → f.returns.desc.accepts v = true ∧ NamesApart f.returns v) :
    Finished f reply (f.observe reply) := by
  cases reply with
  | ok v =>
    obtain ⟨haccepts, hnames⟩ := hshape v rfl
    cases hdecode : f.returns.decode v with
    | ok x =>
      rw [f.observe_decoded hdecode]
      exact .returned hdecode
    | error e =>
      obtain ⟨target, text, rfl⟩ := outOfRange_of_accepts hnames haccepts hdecode
      rw [f.observe_incompatible hdecode]
      exact .outOfRange hdecode
  | failed failure =>
    cases failure with
    | raised e =>
      rw [f.observe_raised]
      split
      · rename_i h
        exact .declared h
      · rename_i h
        exact .undeclared h
    | panicked payload =>
      rw [(f.observe_panic payload).1]
      exact .resumed payload
  | panicked payload =>
    rw [(f.observe_panic payload).2]
    exact .unwound payload

/-- A value of another type finishes a call in none of these ways. -/
theorem not_finished_of_mismatch (f : Finish) {v : Value} {expected got : String}
    (h : f.returns.decode v = .error (.mismatch expected got)) :
    ¬ Finished f (.ok v) (f.observe (.ok v)) := by
  rw [f.observe_incompatible h]
  -- Two panics may have one text: what tells the rules apart is how the value decodes.
  generalize f.incompatible (.mismatch expected got) = payload
  intro hfinished
  cases hfinished with
  | outOfRange hrange => cases h.symm.trans hrange

/-! ## Calls by index -/

/-- A call of an intercepted row follows the protocol, or the row has no code and the call fails
without asking a hook. -/
theorem intercepted_cases {i k : Nat} {e : Entry S} (he : p.entries[i]? = some e)
    (hr : e.route = .intercept k) (icp : Interceptor H S) (access : Access) (args : List Value)
    (state : S) (hooks : H) :
    let ending := dispatch p icp access i args state hooks
    (∃ o, Protocol p icp e.signature o access args state hooks ending.reply ending.state
      ending.hooks ending.acts) ∨ ((∃ f, ending.reply = .failed f) ∧ ending.steps = []) := by
  have h := dispatch_handling p icp access i args state hooks
  generalize dispatch p icp access i args state hooks = ending at h ⊢
  cases h with
  | unknown hnone => cases he.symm.trans hnone
  | unroutable _ _ => exact .inr ⟨⟨_, rfl⟩, rfl⟩
  | direct he' _ hdirect =>
    cases he.symm.trans he'
    cases hr.symm.trans hdirect
  | intercepted he' ho _ =>
    cases he.symm.trans he'
    exact .inl ⟨_, intercept_protocol ..⟩

/-- **What the caller of an intercepted method observes**, for every interceptor, access, argument
list and state. Whenever the hook after is asked, the caller gets the verdict on its answer. Typed
code whose result has the declared descriptor then never meets a value of the wrong shape, where
the types of objects are told apart by their names: an incompatible value is a number out of
range. -/
theorem intercepted_observation {i k : Nat} {e : Entry S} (he : p.entries[i]? = some e)
    (hr : e.route = .intercept k) (icp : Interceptor H S) (access : Access) (args : List Value)
    (state : S) (hooks : H) :
    let ending := dispatch p icp access i args state hooks
    (∀ call outcome answer, .after call outcome answer ∈ ending.steps →
      Verdict e.signature answer ending.reply) ∧
    ∀ f : Finish, f.returns.desc = e.signature.returns →
      (∀ v, ending.reply = .ok v → NamesApart f.returns v) →
        Finished f ending.reply (f.observe ending.reply) := by
  intro ending
  rcases intercepted_cases he hr icp access args state hooks with ⟨o, hp⟩ | ⟨⟨f, hf⟩, hnone⟩
  · refine ⟨fun call outcome answer hasked => ?_, fun f hdesc hnames => ?_⟩
    · exact hp.verdict (List.mem_filter.mpr ⟨hasked, rfl⟩)
    · refine finished_observe f _ fun v hv => ⟨?_, hnames v hv⟩
      rw [hdesc]
      exact hp.accepts hv
  · refine ⟨fun call outcome answer hasked => ?_, fun f' _ _ => ?_⟩
    · rw [hnone] at hasked
      cases hasked
    · refine finished_observe f' _ fun v hv => ?_
      cases hf.symm.trans hv

/-- A gauge that shows its level as an octet. -/
def gauge : Surface Nat where
  type := ⟨1, "tests::Gauge"⟩
  qualified := "tests::Gauge"
  simple := "Gauge"
  isSealed := false
  constructors := [⟨"new", [], .exported, some fun _ => .ok 0⟩]
  methods :=
    [⟨⟨"level", [], .uint "u8", none, .shared, .exported, false⟩,
      some ⟨.shared, fun n _ => (.ok (.uint (.ofNat n)), n)⟩⟩]

/-- The hook after replaces the level: a text is a mismatch that the caller gets as a failure, 300
passes the check and is out of range for typed code. -/
theorem intercepted_observation_gauge : ∃ t p e, Generated gauge .all t p ∧
    p.entries[0]? = some e ∧ e.route = .intercept 0 ∧
    (∃ reply, reply = (dispatch p (.fixed (.str "high") : Interceptor Unit Nat) .shared 0 [] 7
        ()).reply ∧ Verdict e.signature (.ok (.str "high")) reply ∧
      reply = .failed (.raised (.dispatch (.returnMismatch "level" "u8" "string")))) ∧
    let level : Finish := ⟨.integer .u8, none, "level"⟩
    level.returns.desc = e.signature.returns ∧ NamesApart level.returns (.uint 300) ∧
    ∃ reply, reply = (dispatch p (.fixed (.uint 300) : Interceptor Unit Nat) .shared 0 [] 7
        ()).reply ∧ Finished level reply (level.observe reply) ∧
      level.observe reply = .panicked (level.incompatible (.outOfRange "u8" "300")) := by
  have hp : Generated gauge .all _ _ := ⟨rfl, ⟨0, "tests::Noop"⟩, .standard, 0, rfl⟩
  refine ⟨_, _, _, hp, rfl, rfl, ⟨_, rfl, ?_, rfl⟩, rfl, nofun, _, rfl, ?_, rfl⟩
  · refine (intercepted_observation (i := 0) (k := 0) rfl rfl (.fixed (.str "high")) .shared [] 7
      ()).1 ⟨7, gauge.methods[0].signature, [], "Gauge$$Proxy$$0"⟩ .notInvoked _ ?_
    exact List.mem_of_getElem? (i := 3) rfl
  · exact (intercepted_observation (i := 0) (k := 0) rfl rfl (.fixed (.uint 300)) .shared [] 7
      ()).2 _ rfl fun v _ => nofun

/-- A kiosk that shows its last order as an object. -/
def kiosk : Surface Nat where
  type := ⟨4, "tests::Kiosk"⟩
  qualified := "tests::Kiosk"
  simple := "Kiosk"
  isSealed := false
  constructors := [⟨"new", [], .exported, some fun _ => .ok 0⟩]
  methods :=
    [⟨⟨"last", [], .object "app::Order", none, .shared, .exported, false⟩,
      some ⟨.shared, fun n _ => (.ok (.object ⟨⟨5, "app::Order"⟩, "tea", n⟩), n)⟩⟩]

/-- **Two types of objects of one name**, and the hook after answers with an object of the other one.
The answer passes the check and the caller gets it, but it is of the wrong type for typed code. -/
theorem kiosk_shows_namesake : ∃ t p e, Generated kiosk .all t p ∧ p.entries[0]? = some e ∧
    e.route = .intercept 0 ∧
    let answer : Value := .object ⟨⟨6, "app::Order"⟩, "tea", 0⟩
    let ending := dispatch p (.fixed answer : Interceptor Unit Nat) .shared 0 [] 7 ()
    let last : Finish := ⟨.object ⟨5, "app::Order"⟩, none, "last"⟩
    (∃ call outcome, .after call outcome (.ok answer) ∈ ending.steps) ∧
    last.returns.desc = e.signature.returns ∧ e.signature.returns.accepts answer = true ∧
    ending.reply = .ok answer ∧
    last.observe ending.reply =
      .panicked (last.incompatible (.mismatch "app::Order" "app::Order")) ∧
    ¬ Finished last ending.reply (last.observe ending.reply) := by
  have hp : Generated kiosk .all _ _ := ⟨rfl, ⟨0, "tests::Noop"⟩, .standard, 0, rfl⟩
  refine ⟨_, _, _, hp, rfl, rfl, ?_⟩
  intro answer ending last
  obtain ⟨haccepts, hdecode⟩ := mismatch_of_namesake ⟨5, "app::Order"⟩
    ⟨⟨6, "app::Order"⟩, "tea", 0⟩ rfl (by decide)
  have hreply : ending.reply = .ok answer := rfl
  refine ⟨⟨⟨7, kiosk.methods[0].signature, [], "Kiosk$$Proxy$$0"⟩, .notInvoked, ?_⟩, rfl, haccepts,
    hreply, ?_, ?_⟩
  · exact List.mem_of_getElem? (i := 3) rfl
  · rw [hreply]
    exact last.observe_incompatible hdecode
  · rw [hreply]
    exact not_finished_of_mismatch last hdecode

end Interpose
