import Interpose.Interceptor
import Interpose.Session.Script

/-!
# Scripted interceptors

Policies given by rules. A rule list says for each method what a hook does at its first, second,
… call; the last action repeats. Calls are counted per interceptor, hook and method.

The policies implement `Interceptor` of `veneer_sdk::interceptor`, or are the ones of
`veneer_engine::interceptors`.

* `Policy.interceptor` : the interceptor that a policy stands for.
* `Policy.logs` : which hooks of a policy leave entries in the log.
-/

namespace Interpose.Session

open Interpose

/-- The two hooks. -/
inductive Hook where
  | before
  | after
deriving DecidableEq, Repr

/-- What a hook before the original method does. -/
inductive BeforeAction where
  | answer (proceed : Bool)
  | fail (f : Failure)
  | panic (p : Payload)

/-- What a hook after the original method does. -/
inductive AfterAction where
  /-- Passes the outcome through. -/
  | resume
  /-- Returns a list of the outcome's label, result and failure text. -/
  | wrap
  /-- Passes the outcome through, with a replacement for a skipped call. -/
  | resumeOr (v : Value)
  /-- Returns the value. -/
  | give (v : Value)
  /-- Returns the value in place of a failure. -/
  | recover (v : Value)
  /-- Returns the value in place of a captured panic. -/
  | recoverPanic (v : Value)
  | fail (f : Failure)
  | panic (p : Payload)

/-- The actions of a hook by method name, in order of the calls; `*` stands for any other name. -/
abbrev Rules (α : Type) := List (String × List α)

/-- The action of the call with number `k` of a method. -/
def Rules.action? {α : Type} (rules : Rules α) (method : String) (k : Nat) : Option α :=
  match (rules.lookup method).or (rules.lookup "*") with
  | none => none
  | some actions => actions[min k (actions.length - 1)]?

/-- A scripted interception policy. -/
inductive Policy where
  /-- Passes everything through. -/
  | pass
  /-- Skips every call and returns the value. -/
  | fixed (v : Value)
  /-- Both hooks follow rules. -/
  | script (before : Rules BeforeAction) (after : Rules AfterAction)
  /-- The hooks that are present follow rules. -/
  | hooks (before : Option (Rules BeforeAction)) (after : Option (Rules AfterAction))
  /-- A policy of any kind behind an owning handle. -/
  | boxed (inner : Policy)
  /-- A policy behind a shared handle. -/
  | arced (inner : Policy)

/-- The interceptor types. -/
inductive Kind where
  | pass
  | fixed
  | script
  | hooks
  | boxed
  | arced
deriving DecidableEq, Repr

/-- The hook calls that an interceptor has seen, latest first. -/
structure Calls where
  seen : List (Hook × String)
deriving DecidableEq, Repr

/-- No calls yet. -/
def Calls.none : Calls := ⟨[]⟩

/-- How often the hook was called for the method. -/
def Calls.count (c : Calls) (hook : Hook) (method : String) : Nat := c.seen.count (hook, method)

/-- One more call. -/
def Calls.add (c : Calls) (hook : Hook) (method : String) : Calls := ⟨(hook, method) :: c.seen⟩

/-- The reply of an action before the original method. -/
def BeforeAction.reply : Option BeforeAction → Reply Bool
  | .none => .ok true
  | some (.answer proceed) => .ok proceed
  | some (.fail f) => .failed f
  | some (.panic p) => .panicked p

/-- The label, result and failure text of an outcome as one value. -/
def wrapOutcome (o : Outcome) : Value :=
  .list [.str o.kind, o.result?.getD .null,
    match o.failure? with
    | some f => .str f.text
    | .none => .null]

/-- The reply of an action after the original method. -/
def AfterAction.reply (o : Outcome) : Option AfterAction → Reply Value
  | .none | some .resume => .ofExcept o.resume
  | some .wrap => .ok (wrapOutcome o)
  | some (.resumeOr v) => .ofExcept (o.resumeOr v)
  | some (.give v) => .ok v
  | some (.recover v) => if o.failure?.isSome then .ok v else .ofExcept o.resume
  | some (.recoverPanic v) =>
    if o.failure?.any Failure.isPanic then .ok v else .ofExcept o.resume
  | some (.fail f) => .failed f
  | some (.panic p) => .panicked p

/-- The hook before the original method that follows rules. -/
def ruledBefore (rules : Rules BeforeAction) : BeforeHook Calls Scripted := fun call calls =>
  let name := call.method.name
  (BeforeAction.reply (rules.action? name (calls.count .before name)), calls.add .before name)

/-- The hook after the original method that follows rules. -/
def ruledAfter (rules : Rules AfterAction) : AfterHook Calls Scripted := fun call outcome calls =>
  let name := call.method.name
  (AfterAction.reply outcome (rules.action? name (calls.count .after name)), calls.add .after name)

namespace Policy

/-- The interceptor that the policy stands for. -/
def interceptor : Policy → Interceptor Calls Scripted
  | .pass => .passThrough
  | .fixed v => .fixed v
  | .script before after => ⟨ruledBefore before, ruledAfter after⟩
  | .hooks before after => .hooks (before.map ruledBefore) (after.map ruledAfter)
  | .boxed inner | .arced inner => .boxed inner.interceptor

/-- The type of the interceptor. -/
def kind : Policy → Kind
  | .pass => .pass
  | .fixed _ => .fixed
  | .script _ _ => .script
  | .hooks _ _ => .hooks
  | .boxed _ => .boxed
  | .arced _ => .arced

/-- Does the hook leave an entry in the log? -/
def logs (hook : Hook) : Policy → Bool
  | .pass | .fixed _ => false
  | .script _ _ => true
  | .hooks before after =>
    match hook with
    | .before => before.isSome
    | .after => after.isSome
  | .boxed inner | .arced inner => inner.logs hook

/-- The reported form of the policies that have one. -/
def layout? : Policy → Option Text.Layout
  | .pass => some (.leaf "PassThrough")
  | .fixed v => some (.tuple "FixedValue" [v.layout])
  | .hooks before after =>
    some (.closed "Hooks" [("before", .ofBool before.isSome), ("after", .ofBool after.isSome)])
  | _ => .none

end Policy

end Interpose.Session
