import Interpose.Interceptor
import Interpose.ProxyType

/-!
# The dispatch protocol

Model of `veneer_engine::dispatch` (`dispatch`, `call_super`).

An intercepted call asks the hook before it, runs or skips the original method, and lets the hook
after it decide what the caller observes. A hook before that fails or panics ends the call; a
panic of the original method ends it unless the type captures panics; otherwise the hook after it
runs once.

`dispatch` returns, beside the reply and the new states, everything that happened in order.

* `Original.call` : the original method under the access at hand.
* `dispatch` : one call by declaration index.
-/

namespace Interpose

variable {H S : Type}

/-- What happens during a call, in order. -/
inductive Step (S : Type) where
  /-- The hook before was asked and answered. -/
  | before (call : Invocation S) (answer : Reply Bool)
  /-- The original method ran from a state and left another. -/
  | original (start : S) (args : List Value) (reply : Reply Value) (left : S)
  /-- The hook after saw an outcome and answered. -/
  | after (call : Invocation S) (outcome : Outcome) (answer : Reply Value)
  /-- A log event. -/
  | event (e : Event)

/-- How a call ends. -/
structure Ending (H S : Type) where
  /-- What the caller observes. -/
  reply : Reply Value
  /-- The state of the target. -/
  state : S
  /-- The state of the interceptor. -/
  hooks : H
  /-- What happened. -/
  steps : List (Step S)

/-- Does access of kind `has` suffice where `needs` is needed? -/
def Access.suffices (has needs : Access) : Bool := needs = .shared || has = .exclusive

/-- Runs the original method if the access suffices; the reply, the state left behind and the
step taken. -/
def Original.call (t : Original S) (access : Access) (method : String) (state : S)
    (args : List Value) : Reply Value × S × List (Step S) :=
  if access.suffices t.needs then
    let (reply, left) := t.run state args
    (reply, left, [.original state args reply left])
  else (.failed (.raised (.dispatch (.receiverMismatch method))), state, [])

/-- The hook's value if the declared result accepts it. -/
def checkReturn (s : Signature) (v : Value) : Reply Value :=
  if s.returns.accepts v then .ok v
  else .failed (.raised (.dispatch (.returnMismatch s.name s.returns.text v.typeName)))

/-- The last part of an intercepted call: the hook after it, and the check of its value. -/
def conclude (icp : Interceptor H S) (call : Invocation S) (outcome : Outcome) (hooks : H)
    (steps : List (Step S)) : Ending H S :=
  let (answer, hooks) := icp.after call outcome hooks
  { reply := answer.bind (checkReturn call.method)
    state := call.target
    hooks
    steps := steps ++ [.after call outcome answer] }

/-- An intercepted call of a method with the implementation `t`. -/
def intercept (p : ProxyType S) (icp : Interceptor H S) (s : Signature) (t : Original S)
    (access : Access) (args : List Value) (state : S) (hooks : H) : Ending H S :=
  let call : Invocation S := ⟨state, s, args, p.name⟩
  let (answer, hooks) := icp.before call hooks
  let asked : List (Step S) := [.before call answer]
  match answer with
  | .failed f => ⟨.failed f, state, hooks, asked⟩
  | .panicked payload => ⟨.panicked payload, state, hooks, asked⟩
  | .ok proceed =>
    let asked := asked ++ [.event (.answered p.name s.name proceed)]
    let settled (outcome : Outcome) : Step S := .event (.settled p.name s.name outcome.kind)
    if proceed then
      let (reply, left, ran) := t.call access s.name state args
      let finish (outcome : Outcome) :=
        conclude icp { call with target := left } outcome hooks (asked ++ ran ++ [settled outcome])
      match if p.options.catchPanics then reply.captured else reply with
      | .ok v => finish (.returned v)
      | .failed f => finish (.failed f)
      | .panicked payload => ⟨.panicked payload, left, hooks, asked ++ ran⟩
    else conclude icp call .notInvoked hooks (asked ++ [settled .notInvoked])

/-- Calls the declared method at `index` through the proxy. -/
def dispatch (p : ProxyType S) (icp : Interceptor H S) (access : Access) (index : Nat)
    (args : List Value) (state : S) (hooks : H) : Ending H S :=
  match p.entries[index]? with
  | none => ⟨.failed (.raised (.dispatch (.unknownMethod index))), state, hooks, []⟩
  | some entry =>
    match entry.route, entry.original with
    | .unavailable, _ | _, none =>
      ⟨.failed (.raised (.dispatch (.unroutable entry.signature.name))), state, hooks, []⟩
    | .direct, some t =>
      let (reply, left, ran) := t.call access entry.signature.name state args
      ⟨reply, left, hooks, ran⟩
    | .intercept _, some t => intercept p icp entry.signature t access args state hooks

end Interpose
