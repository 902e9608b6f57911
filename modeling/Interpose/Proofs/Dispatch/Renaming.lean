import Interpose.Bound
import Interpose.Proofs.Dispatch.Effect

/-!
# Calls without names

The number and the name of a generated type tell it from all others, and nothing else does. An
interceptor that does not look at the name cannot tell one generated type from another with the same
route table, and then no call can: what a call gives, leaves and does is the same after all names
are taken away as for the type without a name.

* `ProxyType.unnamed` and the other `unnamed` take the names away.
* `Interceptor.NameBlind` : the hooks do not look at the name.

Results:
* `intercept_unnamed`, `dispatch_unnamed`: calls by index.
* **`Bound.apply_unnamed`**: every operation on a bound instance.
-/

namespace Interpose

variable {κ H S : Type}

/-! ## Taking names away -/

/-- The type without number and name. -/
def ProxyType.unnamed (p : ProxyType S) : ProxyType S := { p with serial := 0, name := "" }

/-- The event without the name of a generated type. -/
def Event.unnamed : Event → Event
  | .synthesized _ target interceptor slots direct =>
    .synthesized "" target interceptor slots direct
  | .answered _ method proceed => .answered "" method proceed
  | .settled _ method outcome => .settled "" method outcome
  | e => e

/-- The call without the name of the generated type. -/
def Invocation.unnamed (call : Invocation S) : Invocation S := { call with proxy := "" }

/-- What happens in a call, without the name of the generated type. -/
def Step.unnamed : Step S → Step S
  | .before call answer => .before call.unnamed answer
  | .original start args reply left => .original start args reply left
  | .after call outcome answer => .after call.unnamed outcome answer
  | .event e => .event e.unnamed

/-- How a call ends, without the name of the generated type. -/
def Ending.unnamed (ending : Ending H S) : Ending H S :=
  { ending with steps := ending.steps.map Step.unnamed }

/-- The instance with its type unnamed. -/
def Instance.unnamed (i : Instance S) : Instance S := { i with proxyType := i.proxyType.unnamed }

/-- The bound instance with its type unnamed. -/
def Bound.unnamed (b : Bound κ S) : Bound κ S := { b with inst := b.inst.unnamed }

/-- What an operation gives and leaves, with the type unnamed. -/
def Applied.unnamed (a : Applied κ H S) : Applied κ H S :=
  { a with bound := a.bound.unnamed, steps := a.steps.map Step.unnamed }

/-- What an operation asks of the hooks does not depend on the name of the type. -/
structure Interceptor.NameBlind (icp : Interceptor H S) : Prop where
  before : ∀ (call : Invocation S) hooks, icp.before call.unnamed hooks = icp.before call hooks
  after : ∀ (call : Invocation S) outcome hooks,
    icp.after call.unnamed outcome hooks = icp.after call outcome hooks

/-! ## What was asked -/

theorem Step.hook?_unnamed (s : Step S) :
    s.unnamed.hook? = s.hook?.map fun asked => (asked.1, asked.2.unnamed) := by
  cases s <;> rfl

/-- Taking the names away asks the same hooks about the same calls without names. -/
theorem hooks_unnamed (steps : List (Step S)) :
    (steps.map Step.unnamed).filterMap Step.hook? =
      (steps.filterMap Step.hook?).map fun asked => (asked.1, asked.2.unnamed) := by
  rw [List.map_filterMap, List.filterMap_map]
  exact List.filterMap_congr fun s _ => s.hook?_unnamed

/-! ## Calls by index -/

section Calls

variable {icp : Interceptor H S} {p : ProxyType S} {access : Access} {args : List Value} {state : S}
  {hooks : H}

/-- The original never sees the name. -/
theorem call_unnamed (t : Original S) (access : Access) (method : String) (state : S)
    (args : List Value) :
    (t.call access method state args).2.2.map Step.unnamed =
      (t.call access method state args).2.2 := by
  unfold Original.call
  by_cases hs : access.suffices t.needs
  · rw [if_pos hs]
    rfl
  · rw [if_neg hs]
    rfl

theorem conclude_unnamed (h : icp.NameBlind) (call : Invocation S) (outcome : Outcome) (hooks : H)
    (steps : List (Step S)) :
    (conclude icp call outcome hooks steps).unnamed =
      conclude icp call.unnamed outcome hooks (steps.map Step.unnamed) := by
  unfold conclude
  rw [h.after]
  simp only [Ending.unnamed, List.map_append, List.map_cons, List.map_nil, Step.unnamed]
  rfl

theorem intercept_unnamed (h : icp.NameBlind) (p : ProxyType S) (s : Signature) (t : Original S)
    (access : Access) (args : List Value) (state : S) (hooks : H) :
    (intercept p icp s t access args state hooks).unnamed =
      intercept p.unnamed icp s t access args state hooks := by
  unfold intercept
  cases hb : icp.before ⟨state, s, args, p.name⟩ hooks with
  | mk answer left =>
    have hb' : icp.before ⟨state, s, args, p.unnamed.name⟩ hooks = (answer, left) :=
      (h.before ⟨state, s, args, p.name⟩ hooks).trans hb
    simp only [hb, hb']
    cases answer with
    | failed f => rfl
    | panicked payload => rfl
    | ok proceed =>
      cases proceed with
      | false => exact conclude_unnamed h ..
      | true =>
        have hran := call_unnamed t access s.name state args
        generalize t.call access s.name state args = called at hran ⊢
        obtain ⟨reply, left, ran⟩ := called
        have hsteps (more : List (Step S)) :
            ([Step.before ⟨state, s, args, p.name⟩ (.ok true)] ++
              [Step.event (.answered p.name s.name true)] ++ ran ++ more).map Step.unnamed =
            [Step.before ⟨state, s, args, p.unnamed.name⟩ (.ok true)] ++
              [Step.event (.answered p.unnamed.name s.name true)] ++ ran ++
                more.map Step.unnamed := by
          rw [List.map_append, List.map_append, hran]
          rfl
        have hcatch : p.unnamed.options = p.options := rfl
        simp only [hcatch, if_true]
        cases (if p.options.catchPanics then reply.captured else reply) with
        | ok v => exact (conclude_unnamed h ..).trans (congrArg _ (hsteps _))
        | failed f => exact (conclude_unnamed h ..).trans (congrArg _ (hsteps _))
        | panicked payload =>
          simpa only [Ending.unnamed, List.map_nil, List.append_nil] using
            congrArg (Ending.mk (.panicked payload) _ _) (hsteps [])

/-- **A call by index** comes to the same for the unnamed type. -/
theorem dispatch_unnamed (h : icp.NameBlind) (p : ProxyType S) (access : Access) (index : Nat)
    (args : List Value) (state : S) (hooks : H) :
    (dispatch p icp access index args state hooks).unnamed =
      dispatch p.unnamed icp access index args state hooks := by
  have hentries : p.unnamed.entries = p.entries := rfl
  unfold dispatch
  rw [hentries]
  cases p.entries[index]? with
  | none => rfl
  | some e =>
    obtain ⟨signature, original, route⟩ := e
    cases original with
    | none => cases route <;> rfl
    | some t =>
      cases route with
      | unavailable => rfl
      | direct => exact congrArg (Ending.mk _ _ _) (call_unnamed t access signature.name state args)
      | intercept k => exact intercept_unnamed h ..

end Calls

/-! ## Operations -/

/-- What a call by name comes to does not depend on the name of the type. -/
theorem resolve_unnamed (p : ProxyType S) (method : String) (args : List Value) :
    p.unnamed.resolve method args = p.resolve method args := rfl

/-- Nor does a construction. -/
theorem instantiate_unnamed (p : ProxyType S) (args : List Value) :
    instantiate p.unnamed args = (instantiate p args).map Instance.unnamed := by
  have hconstruct : construct p.unnamed args = construct p args := rfl
  unfold instantiate
  rw [hconstruct]
  cases construct p args <;> rfl

theorem settle_unnamed (b : Bound κ S) (ending : Ending H S) :
    (b.settle ending).unnamed = b.unnamed.settle ending.unnamed := rfl

/-- **Every operation** on a bound instance comes to the same for the unnamed type. -/
theorem Bound.apply_unnamed {icp : Interceptor H S} (h : icp.NameBlind) (b : Bound κ S) (hooks : H)
    (op : Operation κ) :
    (b.apply icp hooks op).unnamed = b.unnamed.apply icp hooks op := by
  cases op with
  | invoke method args =>
    simp only [Bound.apply, Instance.invoke, Bound.unnamed, Instance.unnamed, resolve_unnamed]
    cases b.inst.proxyType.resolve method args with
    | error e => rfl
    | ok index =>
      show (b.settle _).unnamed = b.unnamed.settle (dispatch b.inst.proxyType.unnamed ..)
      rw [settle_unnamed, ← dispatch_unnamed h]
      rfl
  | call access index args =>
    simp only [Bound.apply, Instance.call_eq_dispatch]
    rw [settle_unnamed, dispatch_unnamed h]
    rfl
  | rebind binding => rfl

end Interpose
