import Interpose.Proofs.Dispatch.Effect
import Interpose.Proofs.Process.Task
import Interpose.Proofs.Synthesis.RouteTable

/-!
# Maintenance cannot be seen

A cache may be purged and cleared at any time. From then on numbers and caches differ from those of
the run without maintenance: types are generated anew, under other names, next to instances that
still use the old ones. But instances keep their types, and a type that is generated anew differs
from the old one in number and name only; so whoever uses proxies with interceptors that do not look
at names gets, sees and leaves the same.

Results:
* `perform_bookkeeping`: what tasks log outside of calls is about caches and about generating.
* `run_undisturbed`: two runs from processes that differ in caches, numbers and names only.
* **`run_maintenance`**: any run, against the run without its maintenance.
-/

namespace Interpose

variable {κ ι H S : Type}

/-! ## What can be seen of a run -/

/-- Tasks in order, each with what it gave and left. -/
abbrev Transcript (κ ι H S : Type) := List (Task κ ι S × Done κ ι H S)

/-- What happened in calls. -/
def Receipt.steps : Receipt ι H S → List (Step S)
  | operated (some a) => a.steps
  | _ => []

/-- The log event is about a cache, or about describing and synthesizing. -/
def Event.Bookkeeping (e : Event) : Prop :=
  e.channel ∈ ["veneer::cache", "veneer::descriptor", "veneer::synth"]

namespace Transcript

/-- The tasks that are no maintenance, each with what it gave and left, up to names. -/
def shapes (t : Transcript κ ι H S) : List (Task κ ι S × Receipt ι H S × Process κ ι H S) :=
  (t.filter fun r => !r.1.isMaintenance).map fun r => (r.1, r.2.shape)

/-- Which hook was asked about which call, in order, without names. -/
def hookLog (t : Transcript κ ι H S) : List (Phase × Invocation S) :=
  t.flatMap fun r => (r.2.receipt.steps.filterMap Step.hook?).map fun a => (a.1, a.2.unnamed)

end Transcript

namespace Process

/-- Does tasks in order. -/
def run [DecidableEq κ] (env : Environment ι H S) :
    List (Task κ ι S) → Process κ ι H S → Process κ ι H S × Transcript κ ι H S
  | [], w => (w, [])
  | task :: rest, w =>
    let done := w.perform env task
    let (final, transcript) := run env rest done.process
    (final, (task, done) :: transcript)

/-- **What maintenance leaves alone** in a run, against one without. -/
structure Undisturbed (full quiet : Process κ ι H S × Transcript κ ι H S) : Prop where
  /-- All other tasks give and leave the same, up to names: instances or errors, replies of calls,
  the states of targets and interceptors, and bindings. -/
  shapes : full.2.shapes = quiet.2.shapes
  /-- The hooks are asked about the same calls, in the same order. -/
  hookLog : full.2.hookLog = quiet.2.hookLog
  /-- The targets are in the same states at the end. -/
  states : full.1.instances.map (·.inst.state) = quiet.1.instances.map (·.inst.state)
  /-- So is everything else but caches, numbers and names. -/
  final : full.1.blank = quiet.1.blank
  /-- Only events of caches and of generating are left out of what is compared. -/
  logged : ∀ r ∈ full.2 ++ quiet.2, ∀ e ∈ r.2.events, e.Bookkeeping

end Process

/-! ## What is logged outside of calls -/

namespace Request

theorem bookkeeping_of_generating (r : Request S) (n : Nat) :
    ∀ e ∈ r.generationEvents n, e.Bookkeeping := by
  unfold generationEvents
  cases r.surface.describe r.options.filter with
  | error e => exact fun _ he => absurd he List.not_mem_nil
  | ok t =>
    intro e he
    rcases List.mem_append.mp he with he | he
    · unfold Target.warnings at he
      by_cases hnone : t.nothingEligible = true
      · rw [if_pos hnone, List.mem_singleton] at he
        simp [he, Event.Bookkeeping, Event.channel]
      · simp [hnone] at he
    · cases hp : t.synthesize r.interceptor r.options n with
      | error e' => simp [hp] at he
      | ok p =>
        rw [hp, List.mem_singleton] at he
        simp [he, ProxyType.synthesisEvent, Event.Bookkeeping, Event.channel]

/-- A request reports a hit or a miss, and on a miss what generating reports. -/
theorem bookkeeping (r : Request S) (c : Cache S) (m : Mint) :
    ∀ e ∈ (r.proxyType c m).events, e.Bookkeeping := by
  have hhit : ∀ e ∈ [Event.cacheHit r.target.name], e.Bookkeeping := by
    simp [Event.Bookkeeping, Event.channel]
  have hmiss : ∀ e ∈ Event.cacheMiss r.target.name :: r.generationEvents m.next,
      e.Bookkeeping := by
    intro e he
    rcases List.mem_cons.mp he with rfl | he
    · simp [Event.Bookkeeping, Event.channel]
    · exact r.bookkeeping_of_generating m.next e he
  have hserved := r.served c m
  revert hserved
  generalize r.proxyType c m = a
  intro hserved
  cases hserved with
  | hit => exact hhit
  | misshapen => exact hhit
  | made => exact hmiss
  | failed => exact hmiss

end Request

/-! ## One task -/

/-- Which hooks a task asks, up to names, follows from what it gives up to names. -/
theorem Receipt.hooks_unnamed (r : Receipt ι H S) :
    (r.steps.filterMap Step.hook?).map (fun a => (a.1, a.2.unnamed)) =
      r.unnamed.steps.filterMap Step.hook? := by
  cases r with
  | operated result =>
    cases result with
    | none => rfl
    | some a => exact (Interpose.hooks_unnamed a.steps).symm
  | _ => rfl

theorem Transcript.hookLog_cons (task : Task κ ι S) (done : Done κ ι H S)
    (t : Transcript κ ι H S) : hookLog ((task, done) :: t) =
      done.receipt.unnamed.steps.filterMap Step.hook? ++ hookLog t := by
  rw [← Receipt.hooks_unnamed]
  rfl

namespace Process

theorem states_of_blank {w w' : Process κ ι H S} (h : w.blank = w'.blank) :
    w.instances.map (·.inst.state) = w'.instances.map (·.inst.state) := by
  have hinstances := congrArg (fun b => b.instances.map (·.inst.state)) h
  simpa only [blank, List.map_map, Function.comp_def, Bound.unnamed, Instance.unnamed] using
    hinstances

variable [DecidableEq κ] {env : Environment ι H S} {w w' : Process κ ι H S} {task : Task κ ι S}

/-- Maintenance calls nothing. -/
theorem steps_of_isMaintenance (htask : task.isMaintenance = true) :
    (w.perform env task).receipt.steps = [] := by
  cases task with
  | purge c => rfl
  | clear c => rfl
  | _ => cases htask

theorem perform_bookkeeping (task : Task κ ι S) :
    ∀ e ∈ (w.perform env task).events, e.Bookkeeping := by
  have hacquire (origin : Origin κ) : ∀ e ∈ (w.acquire env origin).events, e.Bookkeeping := by
    cases origin with
    | cache c key => exact Request.bookkeeping _ _ _
    | handle i => exact fun _ he => absurd he List.not_mem_nil
    | sibling i => exact fun _ he => absurd he List.not_mem_nil
  cases task with
  | hold origin => exact hacquire origin
  | make origin mode binding => exact hacquire origin
  | operate i op =>
    show ∀ e ∈ (w.operate env i op).events, e.Bookkeeping
    unfold operate
    cases w.instances[i]? <;> exact fun _ he => absurd he List.not_mem_nil
  | purge c =>
    show ∀ e ∈ ((w.store.caches c).purge w.live).2.2, e.Bookkeeping
    unfold Cache.purge
    intro e he
    by_cases hremoved : 0 < (w.store.caches c).size - ((w.store.caches c).kept w.live).length
    · simp only [hremoved, if_true, List.mem_singleton] at he
      simp [he, Event.Bookkeeping, Event.channel]
    · simp [hremoved] at he
  | _ => exact fun _ he => absurd he List.not_mem_nil

/-! ## Whole runs, by induction on the tasks -/

section Runs

variable {full quiet : Process κ ι H S × Transcript κ ι H S}

/-- Maintenance comes before a run. -/
theorem Undisturbed.maintained (h : Undisturbed full quiet) (htask : task.isMaintenance = true) :
    Undisturbed (full.1, (task, w.perform env task) :: full.2) quiet := by
  refine ⟨?_, ?_, h.states, h.final, fun r hr => ?_⟩
  · rw [← h.shapes]
    simp [Transcript.shapes, htask]
  · rw [← h.hookLog]
    simp [Transcript.hookLog, steps_of_isMaintenance htask]
  · rcases List.mem_cons.mp hr with rfl | hr
    · exact perform_bookkeeping task
    · exact h.logged r hr

/-- A task that is none comes before both. -/
theorem Undisturbed.performed (h : Undisturbed full quiet) (htask : task.isMaintenance = false)
    (hshape : (w.perform env task).shape = (w'.perform env task).shape) :
    Undisturbed (full.1, (task, w.perform env task) :: full.2)
      (quiet.1, (task, w'.perform env task) :: quiet.2) := by
  have hreceipt : (w.perform env task).receipt.unnamed = (w'.perform env task).receipt.unnamed :=
    congrArg Prod.fst hshape
  refine ⟨?_, ?_, h.states, h.final, fun r hr => ?_⟩
  · have hrest := h.shapes
    unfold Transcript.shapes at hrest ⊢
    simp only [List.filter_cons, htask, Bool.not_false, if_true, List.map_cons, hrest, hshape]
  · rw [Transcript.hookLog_cons, Transcript.hookLog_cons, h.hookLog, hreceipt]
  · rcases List.mem_append.mp hr with hr | hr <;> rcases List.mem_cons.mp hr with rfl | hr
    · exact perform_bookkeeping task
    · exact h.logged r (List.mem_append_left _ hr)
    · exact perform_bookkeeping task
    · exact h.logged r (List.mem_append_right _ hr)

end Runs

/-- Processes that differ in caches, numbers and names only go on so, with maintenance in one of
them. -/
theorem run_undisturbed (hblind : ∀ i, (env.interceptors i).NameBlind) (tasks : List (Task κ ι S)) :
    ∀ {w w' : Process κ ι H S}, w.Sound env → w'.Sound env → w.blank = w'.blank →
      Undisturbed (run env tasks w) (run env (tasks.filter fun t => !t.isMaintenance) w') := by
  induction tasks with
  | nil =>
    intro w w' _ _ hblank
    exact ⟨rfl, rfl, states_of_blank hblank, hblank, fun _ hr => absurd hr List.not_mem_nil⟩
  | cons task rest ih =>
    intro w w' hw hw' hblank
    cases htask : task.isMaintenance with
    | true =>
      have hstay : (w.perform env task).process.blank = w'.blank :=
        (blank_of_isMaintenance htask).trans hblank
      rw [List.filter_cons_of_neg (by simp [htask])]
      exact (ih (hw.perform task) hw' hstay).maintained htask
    | false =>
      have hshape : (w.perform env task).shape = (w'.perform env task).shape := by
        rw [perform_blank hblind hw htask, hblank, ← perform_blank hblind hw' htask]
      have hgo : (w.perform env task).process.blank = (w'.perform env task).process.blank :=
        congrArg Prod.snd hshape
      rw [List.filter_cons_of_pos (by simp [htask])]
      exact (ih (hw.perform task) (hw'.perform task) hgo).performed htask hshape

/-- **Maintenance cannot be seen** by users of proxies, wherever it stands among the tasks, if
interceptors do not look at names. -/
theorem run_maintenance (hblind : ∀ i, (env.interceptors i).NameBlind) (m : Mint) (hooks : H)
    (tasks : List (Task κ ι S)) :
    Undisturbed (run env tasks (start m hooks))
      (run env (tasks.filter fun t => !t.isMaintenance) (start m hooks)) :=
  run_undisturbed hblind tasks (.start m hooks) (.start m hooks) rfl

/-- All types are shelves, and one interceptor lets every call pass. -/
def shelves : Environment Unit Unit String where
  surface type := { shelf with type }
  declares _ := rfl
  initial _ := "spare"
  interceptors _ := .passThrough

/-- Two instances of one key have one generated type, unless the cache is cleared between them; the
call of the first by name gives the same after that, and a sibling has its type. -/
theorem run_maintenance_shelves :
    let key : Key := ⟨⟨0, "tests::Shelf"⟩, ⟨0, "tests::Noop"⟩, .standard⟩
    let tasks : List (Task Unit Unit String) :=
      [.make (.cache () key) (.decorate "maps") (), .clear (), .make (.cache () key) .bypass (),
       .operate 0 (.invoke "name" []), .make (.sibling 0) (.construct []) (), .drop 0, .purge ()]
    let full := run shelves tasks (start ⟨0, []⟩ ())
    let quiet := run shelves (tasks.filter fun t => !t.isMaintenance) (start ⟨0, []⟩ ())
    (∀ i, (shelves.interceptors i).NameBlind) ∧ Undisturbed full quiet ∧
    full.1.instances.map (·.inst.proxyType.serial) = [1, 0] ∧
    quiet.1.instances.map (·.inst.proxyType.serial) = [0, 0] ∧
    full.2.hookLog.length = 2 := by
  intro key tasks full quiet
  have hblind : ∀ i, (shelves.interceptors i).NameBlind :=
    fun _ => ⟨fun _ _ => rfl, fun _ _ _ => rfl⟩
  exact ⟨hblind, run_maintenance hblind ⟨0, []⟩ () tasks, by decide +kernel, by decide +kernel,
    by decide +kernel⟩

end Process

end Interpose
