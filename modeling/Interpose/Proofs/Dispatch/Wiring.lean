import Interpose.Proofs.Dispatch.ByName
import Interpose.Proofs.Dispatch.Observation

/-!
# The wiring of a generated type

A generated type is full of positions: routes point to slots, names to rows, slots to methods. They
are followed without a check, and a call fails inside the dispatcher only where a row, its code or
the access to the target is missing.

* The dispatcher raises an error in place of something that a call asks for: in place of the call
  as a whole, of the original, or of the value that the hook after gives (`Raised`). An error that a
  hook or an original comes up with is none of the three, whatever its type.
* `Cause` has one rule per reason for which the dispatcher raises.
* `Target.Positioned`, `Wired` : the positions on the way to a generated type and in it.

Results:
* `Handling.cause`: an error that the dispatcher raises has its cause in the route table.
* `dispatch_raises`, `invoke_raises`: a call of a row with code, with the access that the code needs,
  is refused nothing but the value of the hook after, and so is a call by name.
* `raises_unknownMethod_iff`, `raises_unroutable_iff`: calls by index that do not reach any code.
* **`calls_wired`**: all of this for the types that describing and synthesizing give.
-/

namespace Interpose

variable {H S : Type}

/-! ## Errors that the dispatcher raises -/

/-- Is the step a run of the original? -/
def Step.isOriginal : Step S → Bool
  | .original _ _ _ _ => true
  | _ => false

/-- **The dispatcher raises the error** in a call with this reply and these acts. -/
inductive Raised (reply : Reply Value) (acts : List (Step S)) (e : DispatchError) : Prop
  /-- In place of the call: nothing is asked and nothing runs. -/
  | refused (hacts : acts = []) (hreply : reply = .failed (.raised (.dispatch e)))
  /-- In place of the original: the hook after is told of a failure, but nothing has run. -/
  | denied {call : Invocation S} {answer : Reply Value}
    (htold : .after call (.failed (.raised (.dispatch e))) answer ∈ acts)
    (hnone : acts.any Step.isOriginal = false)
  /-- In place of the value that the hook after has answered with. -/
  | rejected {call : Invocation S} {outcome : Outcome} {v : Value}
    (hanswer : .after call outcome (.ok v) ∈ acts)
    (hreply : reply = .failed (.raised (.dispatch e)))

/-- Is the error about the way to the code of a method, and not about the value of a call? -/
def DispatchError.isRouting : DispatchError → Bool
  | .returnMismatch _ _ _ => false
  | _ => true

/-- The dispatcher raises the error in the call. -/
def Ending.Raises (ending : Ending H S) (e : DispatchError) : Prop :=
  Raised ending.reply ending.acts e

/-- **Why the dispatcher raises** an error in a call by index. -/
inductive Cause (p : ProxyType S) (access : Access) (i : Nat) : DispatchError → Prop
  | unknown (he : p.entries[i]? = none) : Cause p access i (.unknownMethod i)
  | unroutable {e : Entry S} (he : p.entries[i]? = some e)
    (hno : e.route = .unavailable ∨ e.original = none) :
    Cause p access i (.unroutable e.signature.name)
  | outOfReach {e : Entry S} {o : Original S} (he : p.entries[i]? = some e)
    (ho : e.original = some o) (hs : access.suffices o.needs = false) :
    Cause p access i (.receiverMismatch e.signature.name)
  | mismatched {e : Entry S} {v : Value} (he : p.entries[i]? = some e)
    (hv : e.signature.returns.accepts v = false) :
    Cause p access i
      (.returnMismatch e.signature.name e.signature.returns.text v.typeName)

variable {p : ProxyType S} {icp : Interceptor H S} {s : Signature} {o : Original S}
  {access : Access} {args : List Value} {state : S} {hooks : H} {i : Nat} {err : DispatchError}

theorem Raised.reply_of_nil {reply : Reply Value} (h : Raised (S := S) reply [] err) :
    reply = .failed (.raised (.dispatch err)) := by
  cases h with
  | refused _ hreply => exact hreply
  | denied htold _ => cases htold
  | rejected hanswer _ => cases hanswer

/-- The original that a call runs alone raises its errors itself. -/
theorem not_raised_of_original {reply reply' : Reply Value} {start left : S} :
    ¬ Raised reply [.original start args reply' left] err := by
  rintro (⟨hacts, -⟩ | ⟨htold, -⟩ | ⟨hanswer, -⟩)
  · cases hacts
  · simp at htold
  · simp at hanswer

/-- The hook after is told of an error of the dispatcher, although nothing has run, only where the
original is out of reach. -/
theorem Turn.denied {proceed : Bool} {ran : List (Step S)} {left : S}
    (ht : Turn p s o access args state proceed ran left (.ok (.failed (.raised (.dispatch err)))))
    (hnone : ran.any Step.isOriginal = false) :
    err = .receiverMismatch s.name ∧ access.suffices o.needs = false := by
  cases ht with
  | outOfReach hs => exact ⟨rfl, hs⟩
  | failed hs hrun => cases hnone

/-- What the dispatcher raises in an intercepted call. -/
theorem Protocol.raised {reply : Reply Value} {left : S} {h : H} {acts : List (Step S)}
    (hp : Protocol p icp s o access args state hooks reply left h acts)
    (hr : Raised reply acts err) :
    (err = .receiverMismatch s.name ∧ access.suffices o.needs = false) ∨
      ∃ v : Value, err = .returnMismatch s.name s.returns.text v.typeName ∧
        s.returns.accepts v = false := by
  cases hr with
  | refused hacts _ =>
    subst hacts
    cases hp
  | denied htold hnone =>
    cases hp with
    | refused hb => simp at htold
    | burst hb => simp at htold
    | escaped hb ht => simp [ht.after_not_mem] at htold
    | settled hb ht ha =>
      simp only [List.cons_append, List.mem_cons, List.mem_append, ht.after_not_mem, reduceCtorEq,
        false_or, Step.after.injEq, List.not_mem_nil, or_false] at htold
      obtain ⟨-, rfl, -⟩ := htold
      simp only [List.cons_append, List.any_cons, List.any_append, Bool.or_eq_false_iff] at hnone
      exact .inl (ht.denied hnone.2.1)
  | rejected hanswer hreply =>
    have hverdict := hp.verdict hanswer
    rw [hreply] at hverdict
    cases hverdict with
    | mismatched hv => exact .inr ⟨_, rfl, hv⟩

/-- **An error that the dispatcher raises has its cause** in the route table and the access. -/
theorem Handling.cause {ending : Ending H S}
    (h : Handling p icp access i args state hooks ending) (hr : ending.Raises err) :
    Cause p access i err := by
  unfold Ending.Raises at hr
  cases h with
  | unknown he =>
    cases hr.reply_of_nil
    exact .unknown he
  | unroutable he hno =>
    cases hr.reply_of_nil
    exact .unroutable he hno
  | @direct e o he ho hroute =>
    cases hs : access.suffices o.needs with
    | true =>
      rw [call_of_suffices hs] at hr
      exact absurd hr not_raised_of_original
    | false =>
      rw [call_of_not_suffices hs] at hr
      cases hr.reply_of_nil
      exact .outOfReach he ho hs
  | intercepted he ho hroute =>
    rcases (intercept_protocol ..).raised hr with ⟨rfl, hs⟩ | ⟨v, rfl, hv⟩
    · exact .outOfReach he ho hs
    · exact .mismatched he hv

/-- **A call that reaches code** with the access that the code needs is refused nothing but the
value of the hook after. -/
theorem dispatch_raises {e : Entry S} (he : p.entries[i]? = some e)
    (hroute : e.route ≠ .unavailable) (ho : e.original = some o)
    (hs : access.suffices o.needs = true)
    (hr : (dispatch p icp access i args state hooks).Raises err) : err.isRouting = false := by
  cases (dispatch_handling ..).cause hr with
  | unknown hnone => cases he.symm.trans hnone
  | unroutable he' hno =>
    cases he.symm.trans he'
    rcases hno with hno | hno
    · exact absurd hno hroute
    · cases ho.symm.trans hno
  | outOfReach he' ho' hno =>
    cases he.symm.trans he'
    cases ho.symm.trans ho'
    cases hs.symm.trans hno
  | mismatched _ _ => rfl

/-! ## Calls by index -/

variable {d : Surface S} {f : Filter} {t : Target S}

/-- A call by index is refused as unknown iff no method is declared at the index. -/
theorem raises_unknownMethod_iff (hp : Generated d f t p) (j : Nat) :
    (dispatch p icp access i args state hooks).Raises (.unknownMethod j) ↔
      j = i ∧ d.methods.length ≤ i := by
  rw [← entries_length hp, ← List.getElem?_eq_none_iff]
  constructor
  · intro hr
    cases (dispatch_handling ..).cause hr with
    | unknown he => exact ⟨rfl, he⟩
  · rintro ⟨rfl, he⟩
    have hrefused : dispatch p icp access j args state hooks =
        ⟨.failed (.raised (.dispatch (.unknownMethod j))), state, hooks, []⟩ := by
      simp only [dispatch, he]
    rw [hrefused]
    exact .refused rfl rfl

/-- A call by index is refused as unroutable iff the method at the index cannot be called. -/
theorem raises_unroutable_iff (hp : Generated d f t p) (name : String) :
    (dispatch p icp access i args state hooks).Raises (.unroutable name) ↔
      ∃ e, p.entries[i]? = some e ∧ e.route = .unavailable ∧ e.signature.name = name := by
  constructor
  · intro hr
    cases (dispatch_handling ..).cause hr with
    | unroutable he hno =>
      refine ⟨_, he, ?_, rfl⟩
      rcases hno with hno | hno
      · exact hno
      · -- a row that can be called has code
        by_contra hroute
        obtain ⟨o, ho⟩ := original_of_route hp he hroute
        cases ho.symm.trans hno
  · rintro ⟨e, he, hroute, rfl⟩
    have hrefused : dispatch p icp access i args state hooks =
        ⟨.failed (.raised (.dispatch (.unroutable e.signature.name))), state, hooks, []⟩ := by
      simp only [dispatch, he, hroute]
    rw [hrefused]
    exact .refused rfl rfl

/-! ## Calls by name -/

/-- No call by name misses its code. -/
theorem invoke_raises (hp : Generated d f t p) {name : String} {ending : Ending H S}
    (hinvoke : Instance.invoke ⟨p, state⟩ icp name args hooks = .ok ending)
    (hr : ending.Raises err) : err.isRouting = false := by
  obtain ⟨i, hi, rfl⟩ := indexOf?_of_invoke hinvoke
  obtain ⟨e, he, hfound⟩ := entry_of_indexOf? hp hi
  have hroute := ((Entry.answers_iff name e).mp (List.find?_some hfound)).2
  obtain ⟨o, ho⟩ := original_of_route hp he hroute
  -- a call by name has exclusive access, which suffices for any code
  exact dispatch_raises he hroute ho (by simp [Access.suffices]) hr

/-! ## Positions -/

/-- **The pass over the slots stays in its lists**, also where it fails in the end: when it comes to
a slot, there is a route for the method of the slot, and the first slot of its name, if there is
one, is one of those before it. -/
def Target.Positioned (t : Target S) : Prop :=
  ∀ before s after a, t.slots = before ++ s :: after → t.assignAll before 0 t.start = .ok a →
    s.index < a.routes.length ∧
      ∀ first, a.firsts.get? s.signature.name = some first → first < before.length

/-- **Every position in the generated type** of the target is one of the list that it points to. -/
structure Wired (t : Target S) (p : ProxyType S) : Prop where
  /-- A row that can be called has code. -/
  code : ∀ e ∈ p.entries, e.route ≠ .unavailable → e.original.isSome = true
  /-- An intercepted row is routed to a slot. -/
  slot : ∀ e ∈ p.entries, ∀ k, e.route = .intercept k → k < t.slots.length
  /-- A name stands for a row. -/
  row : ∀ name i, p.positions.get? name = some i → i < p.entries.length

theorem positioned_of_describe (hd : d.describe f = .ok t) : t.Positioned := by
  obtain rfl := describe_ok hd
  intro before s after a (hsplit : d.select f = _) hpass
  have hsettled := settled_before hsplit hpass
  constructor
  · rw [hsettled.length]
    exact (ordered_select d f).inRange s (by simp [hsplit])
  · intro first hfirst
    rw [hsettled.firsts] at hfirst
    exact (List.findIdx?_eq_some_iff_getElem.mp hfirst).1

theorem Generated.wired (hp : Generated d f t p) : Wired t p where
  code e he hroute := by
    obtain ⟨i, hi⟩ := List.getElem?_of_mem he
    exact Option.isSome_iff_exists.mpr (original_of_route hp hi hroute)
  slot e he k hroute := by
    obtain ⟨i, hi⟩ := List.getElem?_of_mem he
    obtain ⟨m, hm⟩ := method_of_entry hp hi
    obtain ⟨s, hs, -⟩ := (entryOf_getElem hp hm hi).intercepted_runs k hroute
    exact (List.getElem?_eq_some_iff.mp hs).1
  row name i hi := by
    obtain ⟨e, he, -⟩ := entry_of_indexOf? hp hi
    exact (List.getElem?_eq_some_iff.mp he).1

/-- **No call misses its code by a fault in the wiring.** While a described target is synthesized
and in what comes out of it, every position is one of the list that it points to. So calls by name
always reach code with the access that it needs; a call by index is refused as unknown iff no
method is declared at the index, and as unroutable iff the method there cannot be called. -/
theorem calls_wired (hd : d.describe f = .ok t) :
    t.Positioned ∧ ∀ interceptor options serial p,
      t.synthesize interceptor options serial = .ok p → Wired t p ∧
        ∀ (icp : Interceptor H S) (args : List Value) (state : S) (hooks : H),
          (∀ name ending, Instance.invoke ⟨p, state⟩ icp name args hooks = .ok ending →
            ∀ err, err.isRouting = true → ¬ ending.Raises err) ∧
          ∀ access i,
            let ending := Instance.call ⟨p, state⟩ icp access i args hooks
            (∀ j, ending.Raises (.unknownMethod j) ↔ j = i ∧ d.methods.length ≤ i) ∧
            ∀ name, ending.Raises (.unroutable name) ↔
              ∃ e, p.entries[i]? = some e ∧ e.route = .unavailable ∧ e.signature.name = name := by
  refine ⟨positioned_of_describe hd, fun interceptor options serial p hs => ?_⟩
  have hp : Generated d f t p := ⟨hd, interceptor, options, serial, hs⟩
  refine ⟨hp.wired, fun icp args state hooks => ⟨?_, fun access i => ?_⟩⟩
  · intro name ending hinvoke err hrouting hr
    rw [invoke_raises hp hinvoke hr] at hrouting
    cases hrouting
  · rw [Instance.call_eq_dispatch]
    exact ⟨raises_unknownMethod_iff hp, raises_unroutable_iff hp⟩

/-- The shelf has six methods, and its capacity cannot be called. -/
theorem calls_wired_shelf : ∃ t p, shelf.describe .all = .ok t ∧
    t.synthesize ⟨0, "tests::Noop"⟩ .standard 0 = .ok p ∧ t.Positioned ∧ Wired t p ∧
    let call (i : Nat) :=
      Instance.call ⟨p, "atlas"⟩ (.passThrough : Interceptor Unit String) .shared i [] ()
    (call 6).Raises (.unknownMethod 6) ∧ (call 4).Raises (.unroutable "capacity") := by
  obtain ⟨hpositioned, hall⟩ := calls_wired (H := Unit) (d := shelf) (f := .all) rfl
  obtain ⟨hwired, hcalls⟩ := hall ⟨0, "tests::Noop"⟩ .standard 0 _ rfl
  have hindex := (hcalls .passThrough [] "atlas" ()).2 .shared
  exact ⟨_, _, rfl, rfl, hpositioned, hwired, ((hindex 6).1 6).mpr ⟨rfl, by decide⟩,
    ((hindex 4).2 "capacity").mpr ⟨_, rfl, rfl, rfl⟩⟩

end Interpose
