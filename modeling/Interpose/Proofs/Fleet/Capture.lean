import Interpose.Proofs.Dispatch.Capture
import Interpose.Proofs.Fleet.Run

/-!
# Fleets that capture panics, and fleets that do not

Two fleets are twins when their members have the same targets and the same interceptors, on types
that were generated from the same targets and may differ in number, name, type of interceptor and in
whether they capture panics. As long as no original panics, twins stay twins: one operation keeps
them so, and so does any run. Where an original panics the settings part, and `PanicsPlaced` says
how.

* `Fleet.Twins` : two fleets on variants of the same types.
* `RunsAlike` : what two runs have in common.

Results:
* `Bound.apply_variant`: one operation to which the setting does not matter.
* `Fleet.run_indifferent`: a run to which it does not matter.
* `Fleet.run_twins`: a run in which no original panics.
* `Bound.apply_placed`: the panics of one operation.
* **`capture_changes_panics_only`**: both, for all generated types.
-/

namespace Interpose

variable {ι κ H S : Type}

/-! ## Without names -/

/-- What happened, without the name of the generated type. -/
def Happened.unnamed (h : Happened κ S) : Happened κ S :=
  { h with acts := h.acts.map Step.unnamed }

/-- The history without the names of generated types. -/
def History.unnamed {S : ι → Type} (history : History ι κ S) : History ι κ S :=
  history.map fun r => ⟨r.1, r.2.unnamed⟩

/-- The log entry without the name of the generated type. -/
def HookEntry.unnamed (e : HookEntry ι κ) : HookEntry ι κ := { e with proxy := "" }

/-- In no operation of the history did an original panic. -/
def History.calm {S : ι → Type} (history : History ι κ S) : Bool :=
  history.all fun r => !r.2.acts.any Step.panics

theorem Happened.log_unnamed (i : ι) (n : Nat) (h : Happened κ S) :
    h.unnamed.log i n = (h.log i n).map HookEntry.unnamed := by
  simp only [Happened.log, Happened.unnamed, hooks_unnamed, List.map_map]
  rfl

/-- The log of a history without names is its log without names. -/
theorem History.log_unnamed {S : ι → Type} : ∀ (history : History ι κ S) (n : Nat),
    history.unnamed.log n = (history.log n).map HookEntry.unnamed
  | [], n => rfl
  | r :: rest, n => by
    simp only [History.unnamed, List.map_cons, History.log, List.map_append]
    rw [Happened.log_unnamed, ← History.log_unnamed rest]
    rfl

/-! ## One operation -/

/-- The same target and the same interceptor, on another generated type. -/
def Bound.on (b : Bound κ S) (q : ProxyType S) : Bound κ S :=
  { b with inst := { b.inst with proxyType := q } }

/-- **Two operations came to the same**, the second on the type `q`, up to names. -/
structure Applied.Alike (same : H → H → Prop) (q : ProxyType S) (a a' : Applied κ H S) : Prop where
  bound : a'.bound = a.bound.on q
  hooks : same a.hooks a'.hooks
  response : a'.response = a.response
  acts : (a'.steps.filter Step.isAct).map Step.unnamed =
    (a.steps.filter Step.isAct).map Step.unnamed

/-- **Where the panics of an operation go**, on instances of a type: the operation asks and runs
nothing, or it comes to the call of a row. -/
inductive PanicsPlaced (p : ProxyType S) (captures : Bool) (b : Bound κ S) (op : Operation κ)
    (a : Applied κ H S) : Prop
  | quiet (h : a.steps = [])
  | call (c : IndexedCall) (e : Entry S) (ending : Ending H S) (hc : op.call? p = some c)
    (he : p.entries[c.index]? = some e) (ha : a = b.settle ending)
    (h : Placed captures e.route.isIntercept ending)

section Operations

variable {same : H → H → Prop} {icp : Interceptor H S} {b : Bound κ S} {hooks hooks' : H}
  {q : ProxyType S}

theorem Ending.Alike.settle {ending ending' : Ending H S} (h : ending.Alike same ending')
    (b : Bound κ S) (q : ProxyType S) :
    (b.settle ending).Alike same q ((b.on q).settle ending') where
  bound := by simp only [Bound.settle, Bound.on, h.state]
  hooks := h.hooks
  response := by simp only [Bound.settle, h.reply]
  acts := h.acts

/-- **An operation to which the setting does not matter** comes to the same on every variant of the
type. -/
theorem Bound.apply_variant {op : Operation κ} (hq : b.inst.proxyType.Varies q)
    (hset : b.inst.proxyType.Indifferent q.options.catchPanics (b.happened icp hooks op).acts)
    (hicp : icp.Confuses same b.inst.proxyType.name q.name) (hsame : same hooks hooks') :
    (b.apply icp hooks op).Alike same q ((b.on q).apply icp hooks' op) := by
  obtain ⟨n, name, tag, captures, rfl⟩ := hq
  unfold Bound.happened at hset
  cases op with
  | invoke method args =>
    have hresolve : (b.on (b.inst.proxyType.variant n name tag captures)).inst.proxyType.resolve
      method args = b.inst.proxyType.resolve method args := rfl
    simp only [Bound.apply, Instance.invoke, hresolve] at hset ⊢
    cases hr : b.inst.proxyType.resolve method args with
    | error e => exact ⟨rfl, hsame, rfl, rfl⟩
    | ok index =>
      rw [hr] at hset
      exact (dispatch_variant hset hicp hsame n tag).settle b _
  | call access index args =>
    simp only [Bound.apply, Instance.call_eq_dispatch] at hset ⊢
    exact (dispatch_variant hset hicp hsame n tag).settle b _
  | rebind binding => exact ⟨rfl, hsame, rfl, rfl⟩

/-- **The panics of an operation** go where they belong. -/
theorem Bound.apply_placed (icp : Interceptor H S) (b : Bound κ S) (hooks : H)
    (op : Operation κ) :
    PanicsPlaced b.inst.proxyType b.inst.proxyType.options.catchPanics b op
      (b.apply icp hooks op) := by
  rcases b.apply_cases icp hooks op with ⟨c, hc, -, ha⟩ | ⟨-, response, ha⟩
  · cases he : b.inst.proxyType.entries[c.index]? with
    | none =>
      have hsteps : (dispatch b.inst.proxyType icp c.access c.index c.args b.inst.state
          hooks).steps = [] := by simp only [dispatch, he]
      exact .quiet (by rw [ha]; exact hsteps)
    | some e => exact .call c e _ hc he ha (dispatch_placed he)
  · exact .quiet (by rw [ha])

end Operations

/-! ## Runs -/

section Runs

variable {S : ι → Type} {same : H → H → Prop} {q : (i : ι) → ProxyType (S i)}

/-- **The second fleet has the same targets and interceptors** as the first, on the types `q`. -/
structure Fleet.Twins (same : H → H → Prop) (q : (i : ι) → ProxyType (S i))
    (w w' : Fleet ι κ H S) : Prop where
  members : ∀ i, w'.members i = (w.members i).on (q i)
  hooks : same w.hooks w'.hooks

/-- **What two runs have in common**, the second of them on the types `q`: the targets and the
bindings that they leave, the operations with their results and all that they did, and the hook
log, up to names. -/
structure RunsAlike (same : H → H → Prop) (q : (i : ι) → ProxyType (S i))
    (ran ran' : Fleet ι κ H S × History ι κ S) : Prop where
  twins : ran.1.Twins same q ran'.1
  history : ran'.2.unnamed = ran.2.unnamed
  log : (ran'.2.log 0).map HookEntry.unnamed = (ran.2.log 0).map HookEntry.unnamed

variable [DecidableEq ι]

namespace Fleet

variable {interceptors : κ → (i : ι) → Interceptor H (S i)} {w w' : Fleet ι κ H S}

/-- **One operation** to which the setting does not matter keeps twins twins. -/
theorem step_twins (hq : ∀ i, (w.types i).Varies (q i))
    (hicp : ∀ k i, (interceptors k i).Confuses same (w.types i).name (q i).name)
    (htwins : w.Twins same q w') (i : ι) (op : Operation κ)
    (hset : (w.types i).Indifferent (q i).options.catchPanics
      (w.step interceptors i op).2.acts) :
    (w.step interceptors i op).1.Twins same q (w'.step interceptors i op).1 ∧
      (w'.step interceptors i op).2.unnamed = (w.step interceptors i op).2.unnamed := by
  have halike := Bound.apply_variant (hq i) hset (hicp (w.members i).binding i) htwins.hooks
  have hbinding : (w'.members i).binding = (w.members i).binding := by
    rw [htwins.members]
    rfl
  rw [← htwins.members] at halike
  refine ⟨⟨fun j => ?_, ?_⟩, ?_⟩
  · by_cases hj : j = i
    · subst hj
      simp only [step, Function.update_self, hbinding]
      exact halike.bound
    · rw [step_other _ _ hj, step_other _ _ hj]
      exact htwins.members j
  · simp only [step, hbinding]
    exact halike.hooks
  · simp only [step, hbinding, Bound.happened, Happened.unnamed, halike.response, halike.acts]

/-- **A run** to which the setting does not matter keeps twins twins, and both do the same. -/
theorem run_indifferent : ∀ (ops : List (ι × Operation κ)) {w w' : Fleet ι κ H S},
    (∀ i, (w.types i).Varies (q i)) →
    (∀ k i, (interceptors k i).Confuses same (w.types i).name (q i).name) → w.Twins same q w' →
    (∀ r ∈ (w.run interceptors ops).2,
      (w.types r.1).Indifferent (q r.1).options.catchPanics r.2.acts) →
    (w.run interceptors ops).1.Twins same q (w'.run interceptors ops).1 ∧
      (w'.run interceptors ops).2.unnamed = (w.run interceptors ops).2.unnamed
  | [], w, w', _, _, htwins, _ => ⟨htwins, rfl⟩
  | (i, op) :: rest, w, w', hq, hicp, htwins, hset => by
    rw [run_cons] at hset
    obtain ⟨hnow, hlater⟩ := List.forall_mem_cons.mp hset
    obtain ⟨htwins', hhappened⟩ := step_twins hq hicp htwins i op hnow
    rw [← step_types interceptors w i op] at hq hicp hlater
    obtain ⟨hfinal, hhistory⟩ := run_indifferent rest hq hicp htwins' hlater
    rw [run_cons, run_cons]
    refine ⟨hfinal, ?_⟩
    simp only [History.unnamed, List.map_cons, hhappened] at hhistory ⊢
    rw [hhistory]

/-- **A run** in which no original panics keeps twins twins, and both do the same. -/
theorem run_twins (ops : List (ι × Operation κ)) (hq : ∀ i, (w.types i).Varies (q i))
    (hicp : ∀ k i, (interceptors k i).Confuses same (w.types i).name (q i).name)
    (htwins : w.Twins same q w') (hcalm : (w.run interceptors ops).2.calm = true) :
    (w.run interceptors ops).1.Twins same q (w'.run interceptors ops).1 ∧
      (w'.run interceptors ops).2.unnamed = (w.run interceptors ops).2.unnamed := by
  refine run_indifferent ops hq hicp htwins fun r hr => .inl ?_
  simpa using List.all_eq_true.mp hcalm r hr

end Fleet

/-- **Capturing panics changes nothing but panics.** Take types that were generated from the same
targets under one setting and another. Two fleets of instances of them that start alike do the same
in every run in which no original panics, for all interceptors that do the same under the names of
either. And whenever something panics, in any operation on an instance of any of the types, the
panic goes where it belongs for the setting of that type. -/
theorem capture_changes_panics_only {t : (i : ι) → Target (S i)} {tag : ι → Tag} {f : ι → Filter}
    {c c' : ι → Bool} {n n' : ι → Nat} {p q : (i : ι) → ProxyType (S i)}
    (hp : ∀ i, (t i).synthesize (tag i) ⟨f i, c i⟩ (n i) = .ok (p i))
    (hq : ∀ i, (t i).synthesize (tag i) ⟨f i, c' i⟩ (n' i) = .ok (q i)) :
    (∀ (interceptors : κ → (i : ι) → Interceptor H (S i)) (same : H → H → Prop),
      (∀ k i, (interceptors k i).Confuses same (p i).name (q i).name) →
      ∀ w w' : Fleet ι κ H S, w.types = p → w.Twins same q w' → ∀ ops,
        (w.run interceptors ops).2.calm = true →
          RunsAlike same q (w.run interceptors ops) (w'.run interceptors ops)) ∧
    ∀ i (icp : Interceptor H (S i)) (b : Bound κ (S i)) hooks op,
      (b.inst.proxyType = p i → PanicsPlaced (p i) (c i) b op (b.apply icp hooks op)) ∧
      (b.inst.proxyType = q i → PanicsPlaced (q i) (c' i) b op (b.apply icp hooks op)) := by
  refine ⟨fun interceptors same hicp w w' htypes htwins ops hcalm => ?_,
    fun i icp b hooks op => ⟨fun hb => ?_, fun hb => ?_⟩⟩
  · subst htypes
    obtain ⟨hfinal, hhistory⟩ := Fleet.run_twins ops
      (fun i => varies_of_synthesize (hp i) (hq i)) hicp htwins hcalm
    refine ⟨hfinal, hhistory, ?_⟩
    rw [← History.log_unnamed, ← History.log_unnamed, hhistory]
  · have hplaced := b.apply_placed icp hooks op
    rwa [hb, options_of_synthesize (hp i)] at hplaced
  · have hplaced := b.apply_placed icp hooks op
    rwa [hb, options_of_synthesize (hq i)] at hplaced

end Runs

/-- An interceptor that writes down the names of the types that it is asked about. -/
def scribe : Interceptor (List String) String :=
  ⟨fun call names => (.ok true, call.proxy :: names), Interceptor.resume⟩

/-- It does the same under any two names, up to what it has written. -/
theorem scribe_confuses (name name' : String) :
    scribe.Confuses (fun names names' => names.length = names'.length) name name' where
  before := by
    rintro call h h' answer left hlen hb
    cases hb
    exact ⟨_, rfl, congrArg (· + 1) hlen⟩
  after := by
    rintro call outcome h h' answer left hlen ha
    cases ha
    exact ⟨_, rfl, hlen⟩

/-- Two shelves of which the second captures panics, and two with the settings exchanged: reading
and clearing them comes to the same, but for the names that were written down. Dropping a shelf
empties it under either setting, and the caller gets a failure or the panic. -/
theorem capture_changes_panics_only_shelves : ∃ (t : Target String) (p q : Bool → ProxyType String),
    (∀ i, t.synthesize ⟨0, "tests::Noop"⟩ ⟨.all, i⟩ i.toNat = .ok (p i)) ∧
    (∀ i, t.synthesize ⟨0, "tests::Noop"⟩ ⟨.all, !i⟩ (i.toNat + 5) = .ok (q i)) ∧
    let same (names names' : List String) : Prop := names.length = names'.length
    let fleet (types : Bool → ProxyType String) : Fleet Bool Unit (List String) fun _ => String :=
      ⟨fun i => ⟨⟨types i, "atlas"⟩, ()⟩, []⟩
    let ran (types : Bool → ProxyType String) := (fleet types).run (fun _ _ => scribe)
      [(true, .invoke "name" []), (false, .call .exclusive 1 []), (true, .call .exclusive 3 [])]
    let dropped (i : Bool) := ((fleet p).members i).apply scribe [] (.call .exclusive 5 [])
    RunsAlike same q (ran p) (ran q) ∧
      (ran p).1.hooks = ["Shelf$$Proxy$$0", "Shelf$$Proxy$$1"] ∧
      (ran q).1.hooks = ["Shelf$$Proxy$$5", "Shelf$$Proxy$$6"] ∧
      (∀ i, PanicsPlaced (p i) i ((fleet p).members i) (.call .exclusive 5 []) (dropped i)) ∧
      (dropped true).response = .replied (.failed (.panicked (.literal "dropped"))) ∧
      (dropped false).response = .replied (.panicked (.literal "dropped")) ∧
      ∀ i, (dropped i).bound.inst.state = "" := by
  refine ⟨⟨shelf, shelf.select .all⟩, _, _, fun i => rfl, fun i => rfl, ?_⟩
  intro same fleet ran dropped
  obtain ⟨hruns, hpanics⟩ := @capture_changes_panics_only Bool Unit (List String) (fun _ => String) _
    (fun _ => ⟨shelf, shelf.select .all⟩) (fun _ => ⟨0, "tests::Noop"⟩) (fun _ => .all)
    (fun i => i) (fun i => !i) (fun i => i.toNat) (fun i => i.toNat + 5) _ _ (fun i => rfl)
    (fun i => rfl)
  refine ⟨hruns (fun _ _ => scribe) same (fun _ _ => scribe_confuses _ _) (fleet _) (fleet _) rfl
    ⟨fun i => rfl, rfl⟩ _ rfl, rfl, rfl, fun i => (hpanics i scribe _ [] _).1 rfl, rfl, rfl,
    fun i => ?_⟩
  cases i <;> rfl

end Interpose
