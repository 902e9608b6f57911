import Interpose.Proofs.Dispatch.Wrapping
import Interpose.Proofs.Fleet.Capture
import Interpose.Proofs.Process.Numbering

/-!
# Fleets with wrapped interceptors

Layers around the interceptors of a fleet do not show: a run with them does what a run without them
does, with the hooks that the layers keep. What an interceptor is asked is looked at from inside, by
notes that its own hooks take, so that it does not matter who asks.

* `keptIn`, `wrappedIn`, `notedIn` : all interceptors of a fleet at once.
* `Fleet.noting` : the fleet with notes taken so far.
* `BoundAlike`, `WrappedAlike` : what two runs have in common.

Results:
* `Fleet.run_mapHooks`: a run under interceptors with more state.
* `Fleet.run_wrapped`: a run under wrapped interceptors.
* **`wrapping_is_transparent`**: for the types that are generated for the wrapped interceptors.
-/

namespace Interpose

variable {ι κ H H' S : Type}

/-! ## One operation under an interceptor with more state -/

/-- What an operation gives and leaves, with the state of the interceptor projected. -/
def Applied.mapHooks (proj : H' → H) (a : Applied κ H' S) : Applied κ H S :=
  { a with hooks := proj a.hooks }

theorem Bound.apply_mapHooks {proj : H' → H} {icp : Interceptor H S} {icp' : Interceptor H' S}
    (h : icp.Refines proj icp') (b : Bound κ S) (hooks : H') (op : Operation κ) :
    b.apply icp (proj hooks) op = (b.apply icp' hooks op).mapHooks proj := by
  cases op with
  | invoke method args =>
    simp only [Bound.apply, Instance.invoke]
    cases b.inst.proxyType.resolve method args with
    | error e => rfl
    | ok index => exact congrArg b.settle (dispatch_mapHooks h ..)
  | call access index args =>
    simp only [Bound.apply, Instance.call_eq_dispatch]
    exact congrArg b.settle (dispatch_mapHooks h ..)
  | rebind binding => rfl

/-! ## Runs -/

section Runs

variable {S : ι → Type}

/-- A hook was asked in a call of a member, and answered. -/
structure HookCall (ι : Type) (S : ι → Type) where
  member : ι
  asked : Step (S member)

/-- The hook call without the name of the generated type. -/
def HookCall.unnamed (c : HookCall ι S) : HookCall ι S := ⟨c.member, c.asked.unnamed⟩

/-- The states of interceptors that take notes are alike, but for the names in the notes. -/
def NotedAlike (same : H → H → Prop) (h h' : H × List (HookCall ι S)) : Prop :=
  same h.1 h'.1 ∧ h'.2.map HookCall.unnamed = h.2.map HookCall.unnamed

/-- The interceptors with the hooks that the layers keep. -/
def keptIn (wrap : κ → ι → Wrapping) (interceptors : κ → (i : ι) → Interceptor H (S i)) :
    κ → (i : ι) → Interceptor H (S i) :=
  fun k i => (wrap k i).kept (interceptors k i)

/-- The interceptors with the layers around them. -/
def wrappedIn (wrap : κ → ι → Wrapping) (interceptors : κ → (i : ι) → Interceptor H (S i)) :
    κ → (i : ι) → Interceptor H (S i) :=
  fun k i => (wrap k i).around (interceptors k i)

/-- The interceptors, each with a note of every call of its hooks. -/
def notedIn (interceptors : κ → (i : ι) → Interceptor H (S i)) :
    κ → (i : ι) → Interceptor (H × List (HookCall ι S)) (S i) :=
  fun k i => (interceptors k i).recorded (HookCall.mk i)

/-- All layers come to the hooks that they keep. -/
theorem wrappedIn_eq (wrap : κ → ι → Wrapping)
    (interceptors : κ → (i : ι) → Interceptor H (S i)) :
    wrappedIn wrap interceptors = keptIn wrap interceptors := by
  funext k i
  exact Wrapping.around_eq ..

/-- Layers that leave no hook out come to nothing. -/
theorem keptIn_of_isWhole {wrap : κ → ι → Wrapping} (h : ∀ k i, (wrap k i).isWhole = true)
    (interceptors : κ → (i : ι) → Interceptor H (S i)) :
    keptIn wrap interceptors = interceptors := by
  funext k i
  exact Wrapping.kept_of_isWhole (h k i)

namespace Fleet

/-- The fleet with the state of the interceptors projected. -/
def mapHooks (proj : H' → H) (w : Fleet ι κ H' S) : Fleet ι κ H S := ⟨w.members, proj w.hooks⟩

/-- The fleet with the notes that were taken so far. -/
def noting (w : Fleet ι κ H S) (calls : List (HookCall ι S)) :
    Fleet ι κ (H × List (HookCall ι S)) S :=
  ⟨w.members, w.hooks, calls⟩

end Fleet

variable [DecidableEq ι]

/-- **The calls of the hooks of the interceptors** in a run, when they are bound with something
around them: the run that takes notes is the same run, and the notes are these. -/
def Fleet.Notes (w : Fleet ι κ H S)
    (around : ∀ {T}, (κ → (i : ι) → Interceptor T (S i)) → κ → (i : ι) → Interceptor T (S i))
    (interceptors : κ → (i : ι) → Interceptor H (S i)) (ops : List (ι × Operation κ))
    (made : List (HookCall ι S)) : Prop :=
  (w.noting []).run (around (notedIn interceptors)) ops =
    ((w.run (around interceptors) ops).1.noting made, (w.run (around interceptors) ops).2)

/-- **What two runs have in common** in which the same interceptors are bound with one thing around
them and with another, the second on the types `q`. -/
structure BoundAlike (same : H → H → Prop) (q : (i : ι) → ProxyType (S i))
    (interceptors : κ → (i : ι) → Interceptor H (S i))
    (around around' : ∀ {T}, (κ → (i : ι) → Interceptor T (S i)) →
      κ → (i : ι) → Interceptor T (S i))
    (w w' : Fleet ι κ H S) (ops : List (ι × Operation κ)) : Prop where
  /-- The results, the targets and all that is done. -/
  runs : RunsAlike same q (w.run (around interceptors) ops) (w'.run (around' interceptors) ops)
  /-- The calls of the interceptors' own hooks, in order, and the answers. -/
  calls : ∃ made made', w.Notes around interceptors ops made ∧
    w'.Notes around' interceptors ops made' ∧
    made'.map HookCall.unnamed = made.map HookCall.unnamed

/-- **Wrapped interceptors do what the interceptors do**, bound to instances of the types `q`. -/
structure WrappedAlike (same : H → H → Prop) (q : (i : ι) → ProxyType (S i))
    (wrap : κ → ι → Wrapping) (interceptors : κ → (i : ι) → Interceptor H (S i))
    (w w' : Fleet ι κ H S) (ops : List (ι × Operation κ)) : Prop where
  /-- What they do without the hooks that are left out. -/
  kept : BoundAlike same q interceptors (keptIn wrap) (wrappedIn wrap) w w' ops
  /-- What they do themselves, if no hook is left out. -/
  whole : (∀ k i, (wrap k i).isWhole = true) →
    BoundAlike same q interceptors (fun bound => bound) (wrappedIn wrap) w w' ops

variable {interceptors : κ → (i : ι) → Interceptor H (S i)}
  {interceptors' : κ → (i : ι) → Interceptor H' (S i)} {proj : H' → H}

theorem Fleet.step_mapHooks (h : ∀ k i, (interceptors k i).Refines proj (interceptors' k i))
    (w : Fleet ι κ H' S) (i : ι) (op : Operation κ) :
    (w.mapHooks proj).step interceptors i op =
      ((w.step interceptors' i op).1.mapHooks proj, (w.step interceptors' i op).2) := by
  unfold Fleet.step Bound.happened
  simp only [Fleet.mapHooks, Bound.apply_mapHooks (h _ i)]
  rfl

/-- **A run under interceptors with more state** does what it does under those that they refine. -/
theorem Fleet.run_mapHooks (h : ∀ k i, (interceptors k i).Refines proj (interceptors' k i)) :
    ∀ (ops : List (ι × Operation κ)) (w : Fleet ι κ H' S),
      (w.mapHooks proj).run interceptors ops =
        ((w.run interceptors' ops).1.mapHooks proj, (w.run interceptors' ops).2)
  | [], w => rfl
  | (i, op) :: rest, w => by
    rw [run_cons, run_cons, step_mapHooks h]
    simp only [run_mapHooks h rest]

/-- With notes, a run under the interceptors with the hooks that layers keep is the same run. -/
theorem Fleet.notes_kept (wrap : κ → ι → Wrapping)
    (interceptors : κ → (i : ι) → Interceptor H (S i)) (w : Fleet ι κ H S)
    (ops : List (ι × Operation κ)) :
    w.Notes (keptIn wrap) interceptors ops
      ((w.noting []).run (keptIn wrap (notedIn interceptors)) ops).1.hooks.2 := by
  have hrefines (k : κ) (i : ι) : (keptIn wrap interceptors k i).Refines Prod.fst
      (keptIn wrap (notedIn interceptors) k i) :=
    ((interceptors k i).refines_recorded (HookCall.mk i)).keeping ..
  have hrun : w.run (keptIn wrap interceptors) ops = _ := run_mapHooks hrefines ops (w.noting [])
  unfold Notes
  rw [hrun]
  rfl

/-! ## Runs under wrapped interceptors -/

section Wrapped

variable {same : H → H → Prop} {q : (i : ι) → ProxyType (S i)} {wrap : κ → ι → Wrapping}
  {w w' : Fleet ι κ H S}

/-- A run on twins with the same setting, under the same interceptors. -/
theorem Fleet.run_alike (hq : ∀ i, (w.types i).Varies (q i))
    (hset : ∀ i, (q i).options.catchPanics = (w.types i).options.catchPanics)
    (hicp : ∀ k i, (interceptors k i).Confuses same (w.types i).name (q i).name)
    (htwins : w.Twins same q w') (ops : List (ι × Operation κ)) :
    RunsAlike same q (w.run interceptors ops) (w'.run interceptors ops) := by
  obtain ⟨hfinal, hhistory⟩ :=
    run_indifferent ops hq hicp htwins fun r _ => .inr (hset r.1)
  refine ⟨hfinal, hhistory, ?_⟩
  rw [← History.log_unnamed, ← History.log_unnamed, hhistory]

/-- What is around the interceptors counts for what it makes of them. -/
theorem BoundAlike.congr {ops : List (ι × Operation κ)}
    {around around' bind bind' : ∀ {T}, (κ → (i : ι) → Interceptor T (S i)) →
      κ → (i : ι) → Interceptor T (S i)}
    (h : BoundAlike same q interceptors around around' w w' ops)
    (hbind : ∀ {T} (bound : κ → (i : ι) → Interceptor T (S i)), bind bound = around bound)
    (hbind' : ∀ {T} (bound : κ → (i : ι) → Interceptor T (S i)), bind' bound = around' bound) :
    BoundAlike same q interceptors bind bind' w w' ops := by
  obtain ⟨hruns, made, made', hmade, hmade', hcalls⟩ := h
  unfold Fleet.Notes at hmade hmade'
  refine ⟨?_, made, made', ?_, ?_, hcalls⟩
  · rw [hbind, hbind']
    exact hruns
  · simp only [Fleet.Notes, hbind]
    exact hmade
  · simp only [Fleet.Notes, hbind']
    exact hmade'

/-- **Runs under wrapped interceptors** are alike to runs under the interceptors themselves, and
what these are asked is alike. -/
theorem Fleet.run_wrapped (hq : ∀ i, (w.types i).Varies (q i))
    (hset : ∀ i, (q i).options.catchPanics = (w.types i).options.catchPanics)
    (hicp : ∀ k i, (interceptors k i).Confuses same (w.types i).name (q i).name)
    (htwins : w.Twins same q w') (wrap : κ → ι → Wrapping) (ops : List (ι × Operation κ)) :
    WrappedAlike same q wrap interceptors w w' ops := by
  have hkept : BoundAlike same q interceptors (keptIn wrap) (keptIn wrap) w w' ops := by
    refine ⟨run_alike hq hset (fun k i => (hicp k i).keeping ..) htwins ops, _, _,
      w.notes_kept .., w'.notes_kept .., ?_⟩
    have hnoted (k : κ) (i : ι) : (keptIn wrap (notedIn interceptors) k i).Confuses
        (NotedAlike same) (w.types i).name (q i).name :=
      ((hicp k i).recorded HookCall.unnamed fun _ => rfl).keeping ..
    have hstart : (w.noting []).Twins (NotedAlike same) q (w'.noting []) :=
      ⟨htwins.members, htwins.hooks, rfl⟩
    exact (run_alike (w := w.noting []) hq hset hnoted hstart ops).twins.hooks.2
  exact ⟨hkept.congr (fun _ => rfl) (wrappedIn_eq wrap), fun hwhole =>
    hkept.congr (fun bound => (keptIn_of_isWhole hwhole bound).symm) (wrappedIn_eq wrap)⟩

end Wrapped

/-- **Wrapped interceptors are transparent.** The types that are generated for the interceptors'
types are generated for any other types of interceptors as well, those of the wrapped interceptors
among them, under any numbers. Take interceptors that do the same under the names of both, with any
layers around them, and two fleets that start alike. Then every run does the same under the wrapped
interceptors as under the interceptors themselves; where a layer leaves out a hook, as under the
interceptors without that hook. In particular, the interceptors' own hooks are asked the same, in
the same order. With the same numbers, nothing is asked of the interceptors. -/
theorem wrapping_is_transparent {r : (i : ι) → Request (S i)} {n : ι → Nat}
    {p : (i : ι) → ProxyType (S i)} (hp : ∀ i, (r i).generated (n i) = .ok (p i)) (tag : ι → Tag)
    (n' : ι → Nat) :
    ∃ q : (i : ι) → ProxyType (S i),
      (∀ i, { r i with interceptor := tag i }.generated (n' i) = .ok (q i)) ∧
      ∀ (interceptors : κ → (i : ι) → Interceptor H (S i)) (wrap : κ → ι → Wrapping),
        (∀ same, (∀ k i, (interceptors k i).Confuses same (p i).name (q i).name) →
          ∀ w w' : Fleet ι κ H S, w.types = p → w.Twins same q w' → ∀ ops,
            WrappedAlike same q wrap interceptors w w' ops) ∧
        (n' = n → ∀ w w' : Fleet ι κ H S, w.types = p → w.Twins Eq q w' → ∀ ops,
          WrappedAlike Eq q wrap interceptors w w' ops) := by
  choose q hq hvaries hset using fun i => exists_generated_variant (hp i) (tag i) (n' i)
  refine ⟨q, hq, fun interceptors wrap => ?_⟩
  have hsame (same : H → H → Prop)
      (hicp : ∀ k i, (interceptors k i).Confuses same (p i).name (q i).name)
      (w w' : Fleet ι κ H S) (htypes : w.types = p) (htwins : w.Twins same q w')
      (ops : List (ι × Operation κ)) : WrappedAlike same q wrap interceptors w w' ops := by
    subst htypes
    exact Fleet.run_wrapped hvaries hset hicp htwins wrap ops
  refine ⟨hsame, fun hn => hsame Eq fun k i => ?_⟩
  subst hn
  rw [name_of_generated (hp i), name_of_generated (hq i)]
  exact (interceptors k i).confuses_self _

end Runs

/-- Two shelves with a scribe behind two handles, one of which is then bound with the scribe's hook
before only: reading, clearing and dropping them comes to the same as with the scribe itself, but
for the names that were written down. -/
theorem wrapping_is_transparent_shelves : ∃ (r : Bool → Request String)
    (p q : Bool → ProxyType String), (∀ i, (r i).generated i.toNat = .ok (p i)) ∧
    (∀ i, { r i with interceptor := ⟨1, "handle"⟩ }.generated (i.toNat + 5) = .ok (q i)) ∧
    let same (names names' : List String) : Prop := names.length = names'.length
    let fleet (types : Bool → ProxyType String) : Fleet Bool Bool (List String) fun _ => String :=
      ⟨fun i => ⟨⟨types i, "atlas"⟩, true⟩, []⟩
    let wrap (whole _ : Bool) : Wrapping :=
      if whole then .shared (.boxed .bare) else .boxed (.hooked true false .bare)
    let ops : List (Bool × Operation Bool) :=
      [(true, .invoke "name" []), (false, .rebind false), (false, .call .exclusive 1 []),
        (true, .call .exclusive 5 [])]
    WrappedAlike same q wrap (fun _ _ => scribe) (fleet p) (fleet q) ops ∧
      ((fleet p).run (keptIn wrap fun _ _ => scribe) ops).1.hooks =
        ["Shelf$$Proxy$$1", "Shelf$$Proxy$$0", "Shelf$$Proxy$$1"] ∧
      ((fleet q).run (wrappedIn wrap fun _ _ => scribe) ops).1.hooks =
        ["Shelf$$Proxy$$6", "Shelf$$Proxy$$5", "Shelf$$Proxy$$6"] := by
  let r (i : Bool) : Request String := ⟨shelf, ⟨0, "tests::Noop"⟩, ⟨.all, i⟩⟩
  obtain ⟨q, hq, h⟩ := @wrapping_is_transparent Bool Bool (List String) (fun _ => String) _ r
    (fun i => i.toNat) _ (fun i => rfl) (fun _ => ⟨1, "handle"⟩) (fun i => i.toNat + 5)
  refine ⟨r, _, q, fun i => rfl, hq, ?_⟩
  intro same fleet wrap ops
  refine ⟨(h (fun _ _ => scribe) wrap).1 same (fun _ _ => scribe_confuses _ _) (fleet _) (fleet q)
    rfl ⟨fun i => rfl, rfl⟩ ops, by decide +kernel, ?_⟩
  obtain rfl : q = fun i => _ := funext fun i => Except.ok.inj ((hq i).symm.trans rfl)
  decide +kernel

end Interpose
