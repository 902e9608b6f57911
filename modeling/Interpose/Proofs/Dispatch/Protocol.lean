import Interpose.Proofs.Synthesis.RouteTable

/-!
# The interception protocol

An intercepted call runs through the states START, PRE, SUPER or SKIP, POST, and ends. `Turn` has
one rule per way in which the middle of a call can go, `Protocol` one rule per way in which the
call as a whole can go; the rules name the hook calls with the invocation that each of them sees
and thread the interceptor's state, so "exactly once" is read off them.

* A call acts by asking a hook or by running the original. `Ending.acts` has the acts of a call in
  order; log events are left out.
* The middle of a call ends with the outcome that the hook after is told, or with the payload of a
  panic that nothing captures (`Except.error`): the only way past the hook before that does not
  lead to the hook after.

Results:
* `intercept_protocol`: an intercepted call follows the rules.
* `Protocol.unique`: the rules leave nothing open.
* `dispatch_handling`: what a call by index does on any row of any route table.
* **`dispatch_protocol_iff`**: on a generated type, what a call of an intercepted method gives is
  what the rules give.
-/

namespace Interpose

variable {H S : Type}

/-- Does the step do something, other than log an event? -/
def Step.isAct : Step S → Bool
  | .event _ => false
  | _ => true

/-- Is the step an answer of the hook before? -/
def Step.isBefore : Step S → Bool
  | .before _ _ => true
  | _ => false

/-- What a call did, in order: the hooks that it asked and the original that it ran. -/
def Ending.acts (e : Ending H S) : List (Step S) := e.steps.filter Step.isAct

section Rules

variable (p : ProxyType S) (icp : Interceptor H S) (s : Signature) (o : Original S)
  (access : Access) (args : List Value) (state : S)

/-- **The middle of a call**: given the answer of the hook before, what ran, the state that the
target is left in, and the outcome or the panic that gets away. -/
inductive Turn : Bool → List (Step S) → S → Except Payload Outcome → Prop
  /-- The hook before said no. -/
  | skipped : Turn false [] state (.ok .notInvoked)
  /-- The original needs more access than the call has; it does not run. -/
  | outOfReach (h : access.suffices o.needs = false) :
    Turn true [] state (.ok (.failed (.raised (.dispatch (.receiverMismatch s.name)))))
  | returned (h : access.suffices o.needs = true) {v : Value} {left : S}
    (hrun : o.run state args = (.ok v, left)) :
    Turn true [.original state args (.ok v) left] left (.ok (.returned v))
  | failed (h : access.suffices o.needs = true) {f : Failure} {left : S}
    (hrun : o.run state args = (.failed f, left)) :
    Turn true [.original state args (.failed f) left] left (.ok (.failed f))
  /-- A panic is captured and counts as a failure. -/
  | captured (h : access.suffices o.needs = true) (hc : p.options.catchPanics = true)
    {payload : Payload} {left : S} (hrun : o.run state args = (.panicked payload, left)) :
    Turn true [.original state args (.panicked payload) left] left
      (.ok (.failed (.panicked payload)))
  /-- A panic gets away. -/
  | escaped (h : access.suffices o.needs = true) (hc : p.options.catchPanics = false)
    {payload : Payload} {left : S} (hrun : o.run state args = (.panicked payload, left)) :
    Turn true [.original state args (.panicked payload) left] left (.error payload)

/-- The call as the hooks see it when the target is in the given state. -/
def seen (target : S) : Invocation S := ⟨target, s, args, p.name⟩

/-- **A whole call** from the interceptor state `hooks`: the reply, the state of the target and of
the interceptor after it, and its acts. -/
inductive Protocol (hooks : H) : Reply Value → S → H → List (Step S) → Prop
  /-- The hook before fails: nothing else happens. -/
  | refused {f : Failure} {h : H}
    (hb : icp.before (seen p s args state) hooks = (.failed f, h)) :
    Protocol hooks (.failed f) state h [.before (seen p s args state) (.failed f)]
  /-- The hook before panics: nothing else happens. -/
  | burst {payload : Payload} {h : H}
    (hb : icp.before (seen p s args state) hooks = (.panicked payload, h)) :
    Protocol hooks (.panicked payload) state h [.before (seen p s args state) (.panicked payload)]
  /-- A panic of the original gets away: the hook after is not asked. -/
  | escaped {proceed : Bool} {h : H} {ran : List (Step S)} {left : S} {payload : Payload}
    (hb : icp.before (seen p s args state) hooks = (.ok proceed, h))
    (ht : Turn p s o access args state proceed ran left (.error payload)) :
    Protocol hooks (.panicked payload) left h
      (.before (seen p s args state) (.ok proceed) :: ran)
  /-- The hook after is asked about the outcome and decides the reply. -/
  | settled {proceed : Bool} {h h' : H} {ran : List (Step S)} {left : S} {outcome : Outcome}
    {answer : Reply Value} (hb : icp.before (seen p s args state) hooks = (.ok proceed, h))
    (ht : Turn p s o access args state proceed ran left (.ok outcome))
    (ha : icp.after (seen p s args left) outcome h = (answer, h')) :
    Protocol hooks (answer.bind (checkReturn s)) left h'
      (.before (seen p s args state) (.ok proceed) :: ran ++
        [.after (seen p s args left) outcome answer])

end Rules

variable {p : ProxyType S} {icp : Interceptor H S} {s : Signature} {o : Original S}
  {access : Access} {args : List Value} {state : S} {hooks : H}

/-! ## The original's turn -/

theorem call_of_suffices (h : access.suffices o.needs = true) (method : String) :
    o.call access method state args =
      ((o.run state args).1, (o.run state args).2,
        [.original state args (o.run state args).1 (o.run state args).2]) := by
  unfold Original.call
  rw [if_pos h]

theorem call_of_not_suffices (h : access.suffices o.needs = false) (method : String) :
    o.call access method state args =
      (.failed (.raised (.dispatch (.receiverMismatch method))), state, []) := by
  unfold Original.call
  rw [if_neg (by rw [h]; exact Bool.false_ne_true)]

/-- What the dispatcher makes of the reply of the original. -/
def Reply.settle (captures : Bool) : Reply Value → Except Payload Outcome
  | .ok v => .ok (.returned v)
  | .failed f => .ok (.failed f)
  | .panicked payload => if captures then .ok (.failed (.panicked payload)) else .error payload

/-- The original's turn, once the hook before has said yes. -/
theorem turn_call (p : ProxyType S) (s : Signature) (o : Original S) (access : Access)
    (args : List Value) (state : S) :
    Turn p s o access args state true (o.call access s.name state args).2.2
      (o.call access s.name state args).2.1
      ((o.call access s.name state args).1.settle p.options.catchPanics) := by
  cases h : access.suffices o.needs with
  | false =>
    rw [call_of_not_suffices h]
    exact .outOfReach h
  | true =>
    rw [call_of_suffices h]
    cases hrun : o.run state args with
    | mk reply left =>
      cases reply with
      | ok v => exact .returned h hrun
      | failed f => exact .failed h hrun
      | panicked payload =>
        cases hc : p.options.catchPanics with
        | true => exact .captured h hc hrun
        | false => exact .escaped h hc hrun

/-- The middle of a call has no log events. -/
theorem Turn.filter_ran {proceed : Bool} {ran : List (Step S)} {left : S}
    {result : Except Payload Outcome} (h : Turn p s o access args state proceed ran left result) :
    ran.filter Step.isAct = ran := by
  cases h <;> rfl

/-! ## The whole call -/

/-- The last part of a call adds the hook after to the acts so far. -/
theorem Protocol.conclude {proceed : Bool} {h : H} {ran steps : List (Step S)} {left : S}
    {outcome : Outcome} (hb : icp.before (seen p s args state) hooks = (.ok proceed, h))
    (ht : Turn p s o access args state proceed ran left (.ok outcome))
    (hsteps : steps.filter Step.isAct = .before (seen p s args state) (.ok proceed) :: ran) :
    let ending := conclude icp (seen p s args left) outcome h steps
    Protocol p icp s o access args state hooks ending.reply ending.state ending.hooks
      ending.acts := by
  intro ending
  have hacts : ending.acts = .before (seen p s args state) (.ok proceed) :: ran ++
      [.after (seen p s args left) outcome (icp.after (seen p s args left) outcome h).1] := by
    rw [← hsteps]
    exact List.filter_append ..
  rw [hacts]
  exact .settled hb ht rfl

/-- **An intercepted call follows the rules.** -/
theorem intercept_protocol (p : ProxyType S) (icp : Interceptor H S) (s : Signature)
    (o : Original S) (access : Access) (args : List Value) (state : S) (hooks : H) :
    let ending := intercept p icp s o access args state hooks
    Protocol p icp s o access args state hooks ending.reply ending.state ending.hooks
      ending.acts := by
  unfold intercept
  cases hb : icp.before (seen p s args state) hooks with
  | mk answer h =>
    simp only [seen] at hb
    simp only [hb]
    cases answer with
    | failed f => exact .refused hb
    | panicked payload => exact .burst hb
    | ok proceed =>
      cases proceed with
      | false => exact .settled hb .skipped rfl
      | true =>
        have ht := turn_call p s o access args state
        generalize o.call access s.name state args = called at ht ⊢
        obtain ⟨reply, left, ran⟩ := called
        -- the acts up to the hook after, or up to the panic that gets away
        have hacts (more : List (Step S)) (hmore : more.filter Step.isAct = []) :
            ([Step.before (seen p s args state) (.ok true)] ++
              [Step.event (.answered p.name s.name true)] ++ ran ++ more).filter Step.isAct =
              .before (seen p s args state) (.ok true) :: ran := by
          rw [List.filter_append, List.filter_append, hmore, ht.filter_ran, List.append_nil]
          rfl
        cases reply with
        | ok v =>
          have hv : (if p.options.catchPanics then (Reply.ok v).captured else .ok v) = .ok v := by
            split <;> rfl
          simp only [↓reduceIte, hv]
          exact .conclude hb ht (hacts _ rfl)
        | failed f =>
          have hf : (if p.options.catchPanics then (Reply.failed f : Reply Value).captured
              else .failed f) = .failed f := by
            split <;> rfl
          simp only [↓reduceIte, hf]
          exact .conclude hb ht (hacts _ rfl)
        | panicked payload =>
          -- only here does it matter whether the type captures panics
          unfold Reply.settle at ht
          cases hc : p.options.catchPanics with
          | true =>
            rw [hc] at ht
            exact .conclude hb ht (hacts _ rfl)
          | false =>
            rw [hc] at ht
            have hend := hacts [] rfl
            rw [List.append_nil] at hend
            have hp := Protocol.escaped hb ht
            rw [← hend] at hp
            simp only [↓reduceIte]
            exact hp

/-! ## The rules leave nothing open -/

theorem Turn.unique {proceed : Bool} {ran ran' : List (Step S)} {left left' : S}
    {result result' : Except Payload Outcome}
    (h : Turn p s o access args state proceed ran left result)
    (h' : Turn p s o access args state proceed ran' left' result') :
    ran = ran' ∧ left = left' ∧ result = result' := by
  cases h <;> cases h' <;> simp_all

/-- **The rules leave nothing open**: what a call gives follows from the target, the interceptor,
and what the two are called with. -/
theorem Protocol.unique {r r' : Reply Value} {left left' : S} {h h' : H}
    {acts acts' : List (Step S)}
    (hp : Protocol p icp s o access args state hooks r left h acts)
    (hp' : Protocol p icp s o access args state hooks r' left' h' acts') :
    r = r' ∧ left = left' ∧ h = h' ∧ acts = acts' := by
  cases hp with
  | refused hb => cases hp' <;> simp_all
  | burst hb => cases hp' <;> simp_all
  | escaped hb ht =>
    cases hp' with
    | refused hb' => cases hb.symm.trans hb'
    | burst hb' => cases hb.symm.trans hb'
    | escaped hb' ht' =>
      cases hb.symm.trans hb'
      obtain ⟨rfl, rfl, he⟩ := ht.unique ht'
      cases he
      exact ⟨rfl, rfl, rfl, rfl⟩
    | settled hb' ht' ha' =>
      cases hb.symm.trans hb'
      cases (ht.unique ht').2.2
  | settled hb ht ha =>
    cases hp' with
    | refused hb' => cases hb.symm.trans hb'
    | burst hb' => cases hb.symm.trans hb'
    | escaped hb' ht' =>
      cases hb.symm.trans hb'
      cases (ht.unique ht').2.2
    | settled hb' ht' ha' =>
      cases hb.symm.trans hb'
      obtain ⟨rfl, rfl, he⟩ := ht.unique ht'
      cases he
      cases ha.symm.trans ha'
      exact ⟨rfl, rfl, rfl, rfl⟩

/-! ## A call by index -/

/-- **What a call by index can do**, on any route table: refuse, run the original alone, or run the
protocol. -/
inductive Handling (p : ProxyType S) (icp : Interceptor H S) (access : Access) (i : Nat)
    (args : List Value) (state : S) (hooks : H) : Ending H S → Prop
  /-- There is no such row. -/
  | unknown (he : p.entries[i]? = none) : Handling p icp access i args state hooks
    ⟨.failed (.raised (.dispatch (.unknownMethod i))), state, hooks, []⟩
  /-- The row cannot be called. -/
  | unroutable {e : Entry S} (he : p.entries[i]? = some e)
    (h : e.route = .unavailable ∨ e.original = none) : Handling p icp access i args state hooks
    ⟨.failed (.raised (.dispatch (.unroutable e.signature.name))), state, hooks, []⟩
  | direct {e : Entry S} {o : Original S} (he : p.entries[i]? = some e) (ho : e.original = some o)
    (hr : e.route = .direct) : Handling p icp access i args state hooks
    ⟨(o.call access e.signature.name state args).1,
      (o.call access e.signature.name state args).2.1, hooks,
      (o.call access e.signature.name state args).2.2⟩
  | intercepted {e : Entry S} {o : Original S} {k : Nat} (he : p.entries[i]? = some e)
    (ho : e.original = some o) (hr : e.route = .intercept k) :
    Handling p icp access i args state hooks
      (intercept p icp e.signature o access args state hooks)

theorem dispatch_handling (p : ProxyType S) (icp : Interceptor H S) (access : Access) (i : Nat)
    (args : List Value) (state : S) (hooks : H) :
    Handling p icp access i args state hooks (dispatch p icp access i args state hooks) := by
  unfold dispatch
  cases he : p.entries[i]? with
  | none => exact .unknown he
  | some e =>
    cases ho : e.original with
    | none =>
      cases hr : e.route with
      | unavailable => simpa [hr, ho] using Handling.unroutable he (.inr ho)
      | direct => simpa [hr, ho] using Handling.unroutable he (.inr ho)
      | intercept k => simpa [hr, ho] using Handling.unroutable he (.inr ho)
    | some o =>
      cases hr : e.route with
      | unavailable => simpa [hr, ho] using Handling.unroutable he (.inl hr)
      | direct => simpa [hr, ho] using Handling.direct he ho hr
      | intercept k => simpa [hr, ho] using Handling.intercepted he ho hr

/-- Both kinds of access dispatch. -/
theorem Instance.call_eq_dispatch (i : Instance S) (icp : Interceptor H S) (access : Access)
    (index : Nat) (args : List Value) (hooks : H) :
    i.call icp access index args hooks =
      dispatch i.proxyType icp access index args i.state hooks := by
  cases access <;> rfl

/-- A row that is intercepted and has code is handled by the protocol. -/
theorem dispatch_intercept {e : Entry S} {k i : Nat} (he : p.entries[i]? = some e)
    (ho : e.original = some o) (hr : e.route = .intercept k) :
    dispatch p icp access i args state hooks =
      intercept p icp e.signature o access args state hooks := by
  unfold dispatch
  simp only [he, ho, hr]

/-- **Dispatch follows the protocol**: on a generated type, what a call of an intercepted method
gives is what the rules give, and they are about the code of the slot that it is routed to. This
holds for every interceptor, access, argument list, target state and interceptor state. -/
theorem dispatch_protocol_iff {d : Surface S} {f : Filter} {t : Target S} {p : ProxyType S}
    {i k : Nat} {e : Entry S} (hp : Generated d f t p) (he : p.entries[i]? = some e)
    (hr : e.route = .intercept k) (icp : Interceptor H S) (access : Access) (args : List Value)
    (state : S) (hooks : H) :
    ∃ slot o, t.slots[k]? = some slot ∧ slot.method.original = some o ∧
      ∀ reply left h acts,
        Protocol p icp e.signature o access args state hooks reply left h acts ↔
          let ending := dispatch p icp access i args state hooks
          reply = ending.reply ∧ left = ending.state ∧ h = ending.hooks ∧ acts = ending.acts := by
  obtain ⟨m, hm⟩ := method_of_entry hp he
  obtain ⟨slot, hslot, hsome, horiginal⟩ := (entryOf_getElem hp hm he).intercepted_runs k hr
  obtain ⟨o, ho⟩ := Option.isSome_iff_exists.mp hsome
  refine ⟨slot, o, hslot, ho, fun reply left h acts => ?_⟩
  rw [dispatch_intercept he (horiginal.trans ho) hr]
  have hrules := intercept_protocol p icp e.signature o access args state hooks
  constructor
  · exact fun h => h.unique hrules
  · rintro ⟨rfl, rfl, rfl, rfl⟩
    exact hrules

/-- Dropping the shelf: the hook after sees the text gone and the panic captured. -/
theorem dispatch_protocol_shelf : ∃ t p e o, Generated shelf .all t p ∧
    p.entries[5]? = some e ∧ e.route = .intercept 3 ∧
    Protocol p (.passThrough : Interceptor Unit String) e.signature o .exclusive [] "atlas" ()
      (.failed (.panicked (.literal "dropped"))) "" ()
      [.before ⟨"atlas", e.signature, [], p.name⟩ (.ok true),
       .original "atlas" [] (.panicked (.literal "dropped")) "",
       .after ⟨"", e.signature, [], p.name⟩ (.failed (.panicked (.literal "dropped")))
        (.failed (.panicked (.literal "dropped")))] := by
  have hp : Generated shelf .all _ _ := ⟨rfl, ⟨0, "tests::Noop"⟩, .standard, 0, rfl⟩
  obtain ⟨slot, o, -, -, h⟩ := dispatch_protocol_iff (i := 5) hp rfl rfl
    (.passThrough : Interceptor Unit String) .exclusive [] "atlas" ()
  exact ⟨_, _, _, o, hp, rfl, rfl, (h _ _ _ _).mpr ⟨rfl, rfl, rfl, rfl⟩⟩

end Interpose
