import Interpose.Signature
import Interpose.Failure

/-!
# Interceptors

Model of `veneer_sdk::interceptor` (`Interceptor`, `Invocation`, `SuperOutcome`) and of
`veneer_engine::interceptors` (`PassThrough`, `FixedValue`, `Hooks`).

The policy that a caller binds to a proxy. One hook runs before the original method and may skip
it; the other runs after it, or after the skip, and decides what the caller observes. Hooks are
functions that pass a state of their own along, so a policy may count, remember and change its
mind.

* `Interceptor.passThrough`, `Interceptor.fixed`, `Interceptor.hooks` : the built-in policies.
* `Interceptor.boxed` : a policy behind a handle; it delegates both hooks.
-/

namespace Interpose

open Text

/-- One intercepted call as the hooks see it. -/
structure Invocation (S : Type) where
  /-- The state of the target. -/
  target : S
  method : Signature
  args : List Value
  /-- The name of the generated type. -/
  proxy : String

/-- The reported form. -/
def Invocation.layout {S : Type} (i : Invocation S) : Layout :=
  .closed "Invocation"
    [("proxy_type", .quoted i.proxy), ("method", .quoted i.method.name),
     ("args", Value.listLayout i.args)]

/-- What the target holds, if it is an object of the given type. -/
def Invocation.targetAs? (i : Invocation Handle) (type : Tag) : Option String :=
  (Value.object i.target).content? type

/-- What happened to the original method. -/
inductive Outcome where
  /-- It was skipped. -/
  | notInvoked
  | returned (v : Value)
  /-- It failed, or panicked and was captured. -/
  | failed (f : Failure)
deriving Repr

namespace Outcome

/-- Did the original method run? -/
def invoked : Outcome → Bool
  | .notInvoked => false
  | _ => true

/-- What it returned, if it returned. -/
def result? : Outcome → Option Value
  | .returned v => some v
  | _ => none

/-- How it failed, if it failed. -/
def failure? : Outcome → Option Failure
  | .failed f => some f
  | _ => none

/-- Passes the outcome through; a skipped call gives `fallback`. -/
def resumeOr (fallback : Value) : Outcome → Except Failure Value
  | .notInvoked => .ok fallback
  | .returned v => .ok v
  | .failed f => .error f

/-- Passes the outcome through; a skipped call gives null. -/
def resume (o : Outcome) : Except Failure Value := o.resumeOr .null

/-- The label of the outcome in logs. -/
def kind : Outcome → String
  | .notInvoked => "not-invoked"
  | .returned _ => "returned"
  | .failed f => if f.isPanic then "panicked" else "failed"

/-- The reported form. -/
def layout : Outcome → Layout
  | .notInvoked => .leaf "NotInvoked"
  | .returned v => .tuple "Returned" [v.layout]
  | .failed f => .tuple "Failed" [f.layout]

/-- The outcome of a result. -/
def ofExcept : Except Failure Value → Outcome
  | .ok v => .returned v
  | .error f => .failed f

end Outcome

/-- A hook that runs before the original method. -/
abbrev BeforeHook (H S : Type) := Invocation S → H → Reply Bool × H

/-- A hook that runs after the original method. -/
abbrev AfterHook (H S : Type) := Invocation S → Outcome → H → Reply Value × H

/-- An interception policy with states in `H`, for targets with states in `S`. -/
structure Interceptor (H S : Type) where
  /-- Runs first; the answer false skips the original method. -/
  before : BeforeHook H S
  /-- Runs last and produces the caller's result. -/
  after : AfterHook H S

namespace Interceptor

variable {H S : Type}

/-- Always proceeds. -/
def proceed : BeforeHook H S := fun _ h => (.ok true, h)

/-- Passes the outcome through. -/
def resume : AfterHook H S := fun _ outcome h => (.ofExcept outcome.resume, h)

/-- Runs the original method and returns its outcome unchanged. -/
def passThrough : Interceptor H S := ⟨proceed, resume⟩

/-- Never runs the original method; every call returns `v`. -/
def fixed (v : Value) : Interceptor H S := ⟨fun _ h => (.ok false, h), fun _ _ h => (.ok v, h)⟩

/-- A policy made of separate hooks, each of which may be left out. -/
def hooks (before : Option (BeforeHook H S)) (after : Option (AfterHook H S)) :
    Interceptor H S :=
  ⟨before.getD proceed, after.getD resume⟩

/-- A policy behind a handle: both hooks are delegated. -/
def boxed (i : Interceptor H S) : Interceptor H S :=
  ⟨fun call h => i.before call h, fun call outcome h => i.after call outcome h⟩

end Interceptor

end Interpose
