import Interpose.Proofs.Instance.Construction
import Interpose.Proofs.Process.Task

/-!
# Other code

Methods and constructors get other code, and everything else that types declare stays. Describing
and synthesizing only pass code along, and so do caches; what comes of them with other code is what
came of them before, with the other code in it. So all code that can be replaced like this has not
run.

* `Recoding` : which code stands for which.
* `Surface.recode`, `ProxyType.recode`, `Cache.recode`, `Process.recode` and the like put it there.

Results:
* `assignAll_recode`: the pass over the slots, by induction.
* `generated_recode`, `generationEvents_recode`: describing and synthesizing.
* `proxyType_recode`: a request to a cache of any content.
* **`Process.perform_make_recode`**: making an instance, in every mode.
-/

namespace Interpose

variable {κ ι H S : Type}

/-! ## Putting other code -/

/-- The code that methods and constructors get for their own. -/
structure Recoding (S : Type) where
  methods : (S → List Value → Reply Value × S) → S → List Value → Reply Value × S
  /-- By type and by position in its declaration. -/
  constructors : Tag → Nat → (List Value → Reply S) → List Value → Reply S

variable (ρ : Recoding S)

/-- The original with other code. -/
def Original.recode (o : Original S) : Original S := { o with run := ρ.methods o.run }

/-- The method with other code. -/
def Method.recode (m : Method S) : Method S :=
  { m with original := m.original.map (Original.recode ρ) }

/-- The surface with other code. -/
def Surface.recode (d : Surface S) : Surface S :=
  { d with
    constructors := recoded (ρ.constructors d.type) d.constructors
    methods := d.methods.map (Method.recode ρ) }

/-- The slot with other code. -/
def Slot.recode (s : Slot S) : Slot S := { s with method := s.method.recode ρ }

/-- The target with other code. -/
def Target.recode (t : Target S) : Target S := ⟨t.surface.recode ρ, t.slots.map (Slot.recode ρ)⟩

/-- The row with other code. -/
def Entry.recode (e : Entry S) : Entry S :=
  { e with original := e.original.map (Original.recode ρ) }

/-- The generated type with other code. -/
def ProxyType.recode (p : ProxyType S) : ProxyType S :=
  { p with
    constructors := recoded (ρ.constructors p.type) p.constructors
    entries := p.entries.map (Entry.recode ρ) }

/-- The content of a cell with other code. -/
def Stored.recode : Stored S → Stored S
  | proxy p => proxy (p.recode ρ)
  | foreign n => foreign n

/-- The cache with other code. -/
def Cache.recode (c : Cache S) : Cache S :=
  { c with cells := c.cells.map fun kc => (kc.1, kc.2.map (Stored.recode ρ)) }

/-- The request with other code. -/
def Request.recode (r : Request S) : Request S := { r with surface := r.surface.recode ρ }

/-- The answer with other code. -/
def Request.Answer.recode (a : Request.Answer S) : Request.Answer S :=
  { a with result := a.result.map (ProxyType.recode ρ), cache := a.cache.recode ρ }

/-! ## Describing -/

theorem refusal?_recode (d : Surface S) : (d.recode ρ).refusal? = d.refusal? := by
  have hany : (d.recode ρ).constructors.any (fun c => c.visibility.isAccessible) =
      d.constructors.any fun c => c.visibility.isAccessible := by
    simp only [Surface.recode, recoded, List.mapIdx_eq_zipIdx_map, List.any_map]
    conv_rhs => rw [← List.zipIdx_map_fst 0 d.constructors, List.any_map]
    rfl
  unfold Surface.refusal?
  rw [hany]
  rfl

theorem select_recode (d : Surface S) (f : Filter) :
    (d.recode ρ).select f = (d.select f).map (Slot.recode ρ) := by
  simp only [Surface.select, Surface.recode, List.zipIdx_map, List.filter_map, List.map_map]
  rfl

theorem describe_recode (d : Surface S) (f : Filter) :
    (d.recode ρ).describe f = (d.describe f).map (Target.recode ρ) := by
  unfold Surface.describe
  rw [refusal?_recode, select_recode]
  cases d.refusal? <;> rfl

/-! ## Synthesizing -/

theorem ownRoute_recode (m : Method S) : (m.recode ρ).ownRoute = m.ownRoute := by
  unfold Method.ownRoute
  simp [Method.recode]

theorem slotFault?_recode (t : Target S) (a : Assignment) (s : Slot S) :
    (t.recode ρ).slotFault? a (s.recode ρ) = t.slotFault? a s := by
  have hconflict (first : Nat) :
      (t.recode ρ).conflict? first (s.recode ρ) = t.conflict? first s := by
    unfold Target.conflict?
    simp only [Target.recode, List.getElem?_map]
    cases t.slots[first]? <;> rfl
  unfold Target.slotFault?
  simp only [hconflict]
  simp [Slot.recode, Method.recode, Slot.signature]

theorem assign_recode (t : Target S) (a : Assignment) (k : Nat) (s : Slot S) :
    (t.recode ρ).assign a k (s.recode ρ) = t.assign a k s := by
  unfold Target.assign
  rw [slotFault?_recode]
  rfl

/-- The pass over the slots does not look at code, by induction on the slots. -/
theorem assignAll_recode (t : Target S) (slots : List (Slot S)) (k : Nat) (a : Assignment) :
    (t.recode ρ).assignAll (slots.map (Slot.recode ρ)) k a = t.assignAll slots k a := by
  induction slots generalizing k a with
  | nil => rfl
  | cons s rest ih =>
    show ((t.recode ρ).assign a k (s.recode ρ)).bind _ = (t.assign a k s).bind _
    rw [assign_recode]
    exact congrArg _ (funext fun a' => ih (k + 1) a')

theorem start_recode (t : Target S) : (t.recode ρ).start = t.start := by
  simp only [Target.start, Target.recode, Surface.recode, List.map_map, Function.comp_def,
    ownRoute_recode]

theorem entries_recode (t : Target S) (routes : List Route) :
    (t.recode ρ).entries routes = (t.entries routes).map (Entry.recode ρ) := by
  have hentry (m : Method S) (route : Route) :
      (t.recode ρ).entry (m.recode ρ) route = (t.entry m route).recode ρ := by
    cases route with
    | intercept slot =>
      simp only [Target.entry, Target.recode, List.getElem?_map, Entry.recode, Method.recode]
      cases t.slots[slot]? <;> rfl
    | direct => rfl
    | unavailable => rfl
  simp only [Target.entries, Target.recode, Surface.recode, List.zip_map_left, List.map_map]
  exact List.map_congr_left fun mr _ => hentry mr.1 mr.2

theorem positions_recode (entries : List (Entry S)) :
    Entry.positions (entries.map (Entry.recode ρ)) = Entry.positions entries := by
  simp only [Entry.positions, List.zipIdx_map, List.foldl_map]
  rfl

theorem synthesize_recode (t : Target S) (interceptor : Tag) (options : Options) (serial : Nat) :
    (t.recode ρ).synthesize interceptor options serial =
      (t.synthesize interceptor options serial).map (ProxyType.recode ρ) := by
  have hpass : (t.recode ρ).assignAll (t.recode ρ).slots 0 (t.recode ρ).start =
      t.assignAll t.slots 0 t.start := by
    rw [start_recode]
    exact assignAll_recode ρ t t.slots 0 t.start
  unfold Target.synthesize
  rw [hpass]
  cases t.assignAll t.slots 0 t.start with
  | error e => rfl
  | ok a =>
    simp only [Except.map, entries_recode, positions_recode]
    rfl

theorem synthesisEvent_recode (p : ProxyType S) :
    (p.recode ρ).synthesisEvent = p.synthesisEvent := by
  have hcount : (p.recode ρ).directCount = p.directCount := by
    simp only [ProxyType.directCount, ProxyType.recode, List.filter_map, List.length_map]
    rfl
  unfold ProxyType.synthesisEvent
  rw [hcount]
  rfl

theorem warnings_recode (t : Target S) : (t.recode ρ).warnings = t.warnings := by
  simp [Target.warnings, Target.nothingEligible, Target.recode, Surface.recode]

namespace Request

/-- **Describing and synthesizing** pass code along. -/
theorem generated_recode (r : Request S) (n : Nat) :
    (r.recode ρ).generated n = (r.generated n).map (ProxyType.recode ρ) := by
  unfold generated
  show ((r.surface.recode ρ).describe r.options.filter).bind _ = _
  rw [describe_recode]
  cases r.surface.describe r.options.filter with
  | error e => rfl
  | ok t => exact synthesize_recode ρ t r.interceptor r.options n

theorem generationEvents_recode (r : Request S) (n : Nat) :
    (r.recode ρ).generationEvents n = r.generationEvents n := by
  have hdescribe : (r.recode ρ).surface.describe (r.recode ρ).options.filter =
      (r.surface.describe r.options.filter).map (Target.recode ρ) :=
    describe_recode ρ r.surface r.options.filter
  unfold generationEvents
  rw [hdescribe]
  cases r.surface.describe r.options.filter with
  | error e => rfl
  | ok t =>
    have hsynthesize : (t.recode ρ).synthesize (r.recode ρ).interceptor (r.recode ρ).options n =
        (t.synthesize r.interceptor r.options n).map (ProxyType.recode ρ) :=
      synthesize_recode ρ t r.interceptor r.options n
    simp only [Except.map, warnings_recode, hsynthesize]
    cases t.synthesize r.interceptor r.options n with
    | error e => rfl
    | ok p => simp only [synthesisEvent_recode]

end Request

/-! ## Caches -/

namespace Cache

theorem cell?_recode (c : Cache S) (key : Key) :
    (c.recode ρ).cell? key = (c.cell? key).map (Option.map (Stored.recode ρ)) := by
  unfold cell? recode
  induction c.cells with
  | nil => rfl
  | cons kb cells ih =>
    rw [List.map_cons, lookup_cons_ite, lookup_cons_ite, ih]
    split <;> rfl

theorem find?_recode (c : Cache S) (key : Key) :
    (c.recode ρ).find? key = (c.find? key).map (Stored.recode ρ) := by
  unfold find?
  rw [cell?_recode]
  match c.cell? key with
  | none => rfl
  | some none => rfl
  | some (some stored) => rfl

theorem reserve_recode (c : Cache S) (key : Key) :
    (c.recode ρ).reserve key = (c.reserve key).recode ρ := by
  unfold reserve
  rw [cell?_recode, Option.isSome_map]
  split
  · rfl
  · simp [recode]

theorem fill_recode (c : Cache S) (key : Key) (stored : Stored S) :
    (c.recode ρ).fill key (stored.recode ρ) = (c.fill key stored).recode ρ := by
  simp only [fill, recode, List.map_map, mk.injEq, and_true]
  refine List.map_congr_left fun kc _ => ?_
  by_cases hkey : kc.1 = key <;> simp [hkey]

end Cache

theorem proxy?_recode (stored : Stored S) (target interceptor : Tag) :
    (stored.recode ρ).proxy? target interceptor =
      (stored.proxy? target interceptor).map (ProxyType.recode ρ) := by
  cases stored with
  | proxy p =>
    show (if (p.type = target && p.interceptor = interceptor) = true then _ else _) =
      Option.map _ (if (p.type = target && p.interceptor = interceptor) = true then _ else _)
    split <;> rfl
  | foreign n => rfl

/-! ## A request -/

/-- **A request** to a cache of any content gives, with other code, what it gives without. -/
theorem proxyType_recode (r : Request S) (c : Cache S) (m : Mint) :
    (r.recode ρ).proxyType (c.recode ρ) m = (r.proxyType c m).recode ρ := by
  have hfind := c.find?_recode ρ r.key
  have hgen := r.generated_recode ρ m.next
  cases hfound : c.find? r.key with
  | some stored =>
    have hfound' : (c.recode ρ).find? (r.recode ρ).key = some (stored.recode ρ) := by
      rw [hfound] at hfind
      exact hfind
    have hshape := proxy?_recode ρ stored r.target r.interceptor
    cases hp : stored.proxy? r.target r.interceptor with
    | some p =>
      rw [hp] at hshape
      rw [Request.proxyType_of_found hfound hp, Request.proxyType_of_found hfound' hshape]
      rfl
    | none =>
      rw [hp] at hshape
      rw [Request.proxyType_of_misshapen hfound hp, Request.proxyType_of_misshapen hfound' hshape]
      rfl
  | none =>
    have hnone' : (c.recode ρ).find? (r.recode ρ).key = none := by
      rw [hfound] at hfind
      exact hfind
    cases hr : r.generated m.next with
    | ok p =>
      have hcache : ((c.recode ρ).reserve r.key).fill r.key (.proxy (p.recode ρ)) =
          ((c.reserve r.key).fill r.key (.proxy p)).recode ρ := by
        rw [Cache.reserve_recode]
        exact (c.reserve r.key).fill_recode ρ r.key (.proxy p)
      rw [hr] at hgen
      rw [Request.proxyType_of_made hfound hr, Request.proxyType_of_made hnone' hgen,
        r.generationEvents_recode]
      exact congrArg (fun c' : Cache S => Request.Answer.mk (.ok (p.recode ρ))
        { c' with syntheses := c.syntheses + 1 } _ _) hcache
    | error e =>
      rw [hr] at hgen
      rw [Request.proxyType_of_refused hfound hr, Request.proxyType_of_refused hnone' hgen,
        r.generationEvents_recode]
      exact congrArg (fun c' : Cache S => Request.Answer.mk (.error e)
        { c' with failures := c.failures + 1 } _ _) (c.reserve_recode ρ r.key)

/-! ## Making an instance -/

/-- The instance with other code. -/
def Instance.recode (i : Instance S) : Instance S := { i with proxyType := i.proxyType.recode ρ }

/-- The bound instance with other code. -/
def Bound.recode (b : Bound ι S) : Bound ι S := { b with inst := b.inst.recode ρ }

/-- The caches with other code. -/
def Store.recode (w : Store κ S) : Store κ S := ⟨fun c => (w.caches c).recode ρ, w.mint⟩

/-- The process with other code. -/
def Process.recode (w : Process κ ι H S) : Process κ ι H S :=
  ⟨w.store.recode ρ, w.handles.map (ProxyType.recode ρ), w.instances.map (Bound.recode ρ), w.hooks⟩

/-- The answer to a question for a generated type with other code. -/
def Obtained.recode (a : Obtained κ S) : Obtained κ S :=
  ⟨a.result.map fun r => r.map (ProxyType.recode ρ), a.store.recode ρ, a.events⟩

/-- The environment with other code, and with any interceptors. -/
def Environment.recode (env : Environment ι H S) (interceptors : ι → Interceptor H S) :
    Environment ι H S where
  surface type := (env.surface type).recode ρ
  declares := env.declares
  initial := env.initial
  interceptors := interceptors

/-- What a task gives with other code. -/
def Receipt.recode : Receipt ι H S → Receipt ι H S
  | held result => held (result.map fun r => r.map (ProxyType.recode ρ))
  | released type => released (type.map (ProxyType.recode ρ))
  | made result => made (result.map fun r => r.map (Instance.recode ρ))
  | operated result => operated (result.map fun a => { a with bound := a.bound.recode ρ })
  | dropped inst => dropped (inst.map (Bound.recode ρ))
  | purged count => purged count
  | cleared => cleared

/-- What a task gives and leaves with other code. -/
def Done.recode (d : Done κ ι H S) : Done κ ι H S :=
  ⟨d.process.recode ρ, d.receipt.recode ρ, d.events⟩

/-- The constructors that making an instance of a type runs. -/
def Mode.builds (p : ProxyType S) : Mode S → List (Build S)
  | construct args => (p.construction args).builds
  | decorate _ | bypass => []

/-- Code that making an instance does not run plays no part in it. -/
theorem make_recode {env : Environment ι H S} {interceptors : ι → Interceptor H S} {mode : Mode S}
    {p : ProxyType S} (h : ∀ b ∈ mode.builds p, ρ.constructors p.type b.position = id) :
    (env.recode ρ interceptors).make mode (p.recode ρ) =
      (env.make mode p).map (Instance.recode ρ) := by
  cases mode with
  | construct args =>
    have hsame : (p.recode ρ).construction args = p.construction args :=
      construction_recoded p args (ρ.constructors p.type) h
    show instantiate (p.recode ρ) args = (instantiate p args).map _
    unfold instantiate construct
    rw [hsame]
    cases (p.construction args).result <;> rfl
  | decorate state => rfl
  | bypass => rfl

namespace Process

variable [DecidableEq κ] {env : Environment ι H S} {interceptors : ι → Interceptor H S}

theorem put_recode (w : Store κ S) (c : κ) (cache : Cache S) (m : Mint) :
    (w.recode ρ).put c (cache.recode ρ) m = (w.put c cache m).recode ρ := by
  unfold Store.put Store.recode
  congr 1
  funext c'
  by_cases hc : c' = c
  · subst hc
    simp
  · simp [hc]

theorem acquire_recode (w : Process κ ι H S) (origin : Origin κ) :
    (w.recode ρ).acquire (env.recode ρ interceptors) origin = (w.acquire env origin).recode ρ := by
  cases origin with
  | cache c key =>
    have hrequest := proxyType_recode ρ (env.request key) (w.store.caches c) w.store.mint
    show Obtained.mk _ _ _ = Obtained.mk _ _ _
    rw [show (env.recode ρ interceptors).request key = (env.request key).recode ρ from rfl,
      show (w.recode ρ).store.caches c = (w.store.caches c).recode ρ from rfl,
      show (w.recode ρ).store.mint = w.store.mint from rfl, hrequest]
    exact congrArg (Obtained.mk _ · _) (put_recode ρ ..)
  | handle i =>
    simp only [acquire, recode, Obtained.recode, List.getElem?_map, Option.map_map]
    rfl
  | sibling i =>
    simp only [acquire, recode, Obtained.recode, List.getElem?_map, Option.map_map]
    rfl

/-- What comes of making an instance of a type from the origin. -/
def made (env : Environment ι H S) (w : Process κ ι H S) (origin : Origin κ) (mode : Mode S) :
    Option (Except ProxyError (Instance S)) :=
  (w.acquire env origin).result.map fun result => result.bind (env.make mode)

theorem made_recode {w : Process κ ι H S} {origin : Origin κ} {mode : Mode S}
    (h : ∀ p, (w.acquire env origin).result = some (.ok p) → ∀ b ∈ mode.builds p,
      ρ.constructors p.type b.position = id) :
    (w.recode ρ).made (env.recode ρ interceptors) origin mode =
      (w.made env origin mode).map fun r => r.map (Instance.recode ρ) := by
  unfold made
  rw [acquire_recode]
  show ((w.acquire env origin).result.map _).map _ = _
  match hresult : (w.acquire env origin).result with
  | none => rfl
  | some (.error e) => rfl
  | some (.ok p) => exact congrArg some (make_recode ρ (h p hresult))

/-- **Making an instance runs no code** but that of the constructors it builds with: with any
interceptors, and any other code for everything else, it comes to the same. -/
theorem perform_make_recode {w : Process κ ι H S} {origin : Origin κ} {mode : Mode S} (binding : ι)
    (h : ∀ p, (w.acquire env origin).result = some (.ok p) → ∀ b ∈ mode.builds p,
      ρ.constructors p.type b.position = id) :
    (w.recode ρ).perform (env.recode ρ interceptors) (.make origin mode binding) =
      (w.perform env (.make origin mode binding)).recode ρ := by
  have hperform (env : Environment ι H S) (w : Process κ ι H S) :
      w.perform env (.make origin mode binding) =
        ⟨{ w with
            store := (w.acquire env origin).store
            instances := w.instances ++
              (gained (w.made env origin mode)).map fun inst => ⟨inst, binding⟩ },
          .made (w.made env origin mode), (w.acquire env origin).events⟩ := rfl
  have hinstances (insts : List (Instance S)) :
      ((insts.map (Instance.recode ρ)).map fun inst => (⟨inst, binding⟩ : Bound ι S)) =
        (insts.map fun inst => ⟨inst, binding⟩).map (Bound.recode ρ) := by
    rw [List.map_map, List.map_map]
    rfl
  rw [hperform, hperform, made_recode ρ h, acquire_recode, ← gained_map, hinstances]
  simp only [Done.recode, recode, Receipt.recode, Obtained.recode, List.map_append]

end Process

end Interpose
