import Interpose.Instance

/-!
# Bound instances

Model of `ProxyInstance` of `veneer_engine::instance` together with its interceptor
(`set_interceptor`, `target_mut`, `call_ref`, `call_mut`, `invoke`).

An instance is used together with the interceptor that it is bound to. The interceptor is known by
a handle, so instances may share one, and its state is kept apart from them. Binding another one
takes effect with the next call.

* `Bound.rebind` : binds another interceptor.
* `Bound.apply` : any operation on a bound instance.
-/

namespace Interpose

/-- An instance and the handle of its interceptor. -/
structure Bound (κ S : Type) where
  inst : Instance S
  binding : κ

/-- What a caller does with a bound instance. -/
inductive Operation (κ : Type) where
  /-- A call by name. -/
  | invoke (method : String) (args : List Value)
  /-- A call by declaration index. -/
  | call (access : Access) (index : Nat) (args : List Value)
  /-- Binds another interceptor. -/
  | rebind (binding : κ)

/-- What the caller gets. -/
inductive Response (κ : Type) where
  /-- A call by name that did not come to a call. -/
  | refused (e : ProxyError)
  | replied (r : Reply Value)
  /-- The interceptor that was bound before. -/
  | previous (binding : κ)

/-- What an operation gives and leaves. -/
structure Applied (κ H S : Type) where
  bound : Bound κ S
  /-- The state of the interceptor. -/
  hooks : H
  response : Response κ
  /-- What happened. -/
  steps : List (Step S)

variable {κ H S : Type}

namespace Bound

/-- Binds another interceptor; the previous one comes back. -/
def rebind (b : Bound κ S) (binding : κ) : Bound κ S × κ := ({ b with binding }, b.binding)

/-- Keeps what a call leaves. -/
def settle (b : Bound κ S) (ending : Ending H S) : Applied κ H S where
  bound := { b with inst := { b.inst with state := ending.state } }
  hooks := ending.hooks
  response := .replied ending.reply
  steps := ending.steps

/-- Carries out an operation; `icp` is the interceptor that is bound. -/
def apply (icp : Interceptor H S) (b : Bound κ S) (hooks : H) : Operation κ → Applied κ H S
  | .invoke method args =>
    match b.inst.invoke icp method args hooks with
    | .error e => ⟨b, hooks, .refused e, []⟩
    | .ok ending => b.settle ending
  | .call access index args => b.settle (b.inst.call icp access index args hooks)
  | .rebind binding =>
    let (bound, previous) := b.rebind binding
    ⟨bound, hooks, .previous previous, []⟩

end Bound

end Interpose
