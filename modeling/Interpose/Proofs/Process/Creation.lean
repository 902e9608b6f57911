import Interpose.Proofs.Process.Maintenance
import Interpose.Proofs.Process.Recoding
import Interpose.Proofs.Synthesis.Generation

/-!
# Making instances

An instance is made of a type from a cache, with the state of a constructor, a given state or the
initial one, or as a sibling of an instance. Where there is no type nothing is run and the cache
says why; a constructor that does not succeed leaves the type in the cache. Nothing of this runs a
hook or a method, whatever the caches hold.

* `Refused` : the ways in which a cache has no type for a request.
* `FromCache`, `FromSibling` : what comes of making an instance.

Results:
* `result_eq_error_iff`: a request is refused in these ways only.
* `refused_iff_generated`: where cells hold what was generated for their keys, a request is refused
  for what is wrong with the type.
* **`creation_clean`**: every mode, for caches of any content.
-/

namespace Interpose

variable {κ ι H S : Type}

/-! ## Errors -/

/-- Does the error say that there is no generated type? -/
def ProxyError.refuses : ProxyError → Bool
  | notExtendable .. | generation .. => true
  | _ => false

/-- **The ways to be refused**, by a cache where the next type gets the number `n`. -/
inductive Refused (r : Request S) (c : Cache S) (n : Nat) : ProxyError → Prop
  | undescribed {e : ProxyError} (hnone : c.find? r.key = none)
    (h : r.surface.describe r.options.filter = .error e) : Refused r c n e
  | unsynthesized {t : Target S} {e : ProxyError} (hnone : c.find? r.key = none)
    (hdescribe : r.surface.describe r.options.filter = .ok t)
    (h : t.synthesize r.interceptor r.options n = .error e) : Refused r c n e
  /-- The cell of the key holds no generated type of the target for the type of interceptor. -/
  | misfilled {stored : Stored S} (hfound : c.find? r.key = some stored)
    (h : stored.proxy? r.target r.interceptor = none) : Refused r c n r.unexpectedShape

section Refusals

variable {r : Request S} {c : Cache S} {m : Mint} {n : Nat} {e : ProxyError} {p : ProxyType S}

theorem refuses_of_describe (h : r.surface.describe r.options.filter = .error e) :
    ∃ type reason, e = .notExtendable type reason := by
  unfold Surface.describe Surface.refusal? at h
  split at h
  · rename_i hrefusal
    obtain rfl := Except.error.inj h
    split at hrefusal
    · exact ⟨_, _, (Option.some.inj hrefusal).symm⟩
    · split at hrefusal
      · cases hrefusal
      · exact ⟨_, _, (Option.some.inj hrefusal).symm⟩
  · cases h

theorem refuses_of_synthesize {t : Target S}
    (h : t.synthesize r.interceptor r.options n = .error e) :
    ∃ type method reason, e = .generation type method reason := by
  obtain ⟨_, s, _, a', reason, -, -, -, rfl⟩ := assignAll_eq_error (synthesize_eq_error h)
  exact ⟨_, _, _, rfl⟩

theorem Refused.refuses (h : Refused r c n e) : e.refuses = true := by
  cases h with
  | undescribed _ h =>
    obtain ⟨_, _, rfl⟩ := refuses_of_describe h
    rfl
  | unsynthesized _ _ h =>
    obtain ⟨_, _, _, rfl⟩ := refuses_of_synthesize h
    rfl
  | misfilled _ _ => rfl

/-- Generating fails at one of its two stages. -/
theorem generated_eq_error_iff : r.generated n = .error e ↔
    r.surface.describe r.options.filter = .error e ∨
      ∃ t, r.surface.describe r.options.filter = .ok t ∧
        t.synthesize r.interceptor r.options n = .error e :=
  bind_eq_error_iff

/-- **A request is refused** in these ways only. -/
theorem result_eq_error_iff :
    (r.proxyType c m).result = .error e ↔ Refused r c m.next e := by
  constructor
  · intro h
    have hserved := r.served c m
    generalize r.proxyType c m = a at h hserved
    cases hserved with
    | hit => cases h
    | misshapen hfound hp =>
      obtain rfl := Except.error.inj h
      exact .misfilled hfound hp
    | made => cases h
    | failed hnone he =>
      obtain rfl := Except.error.inj h
      rcases generated_eq_error_iff.mp he with hd | ⟨t, hd, hs⟩
      · exact .undescribed hnone hd
      · exact .unsynthesized hnone hd hs
  · intro h
    cases h with
    | undescribed hnone hd =>
      rw [Request.proxyType_of_refused hnone (generated_eq_error_iff.mpr (.inl hd))]
    | unsynthesized hnone hd hs =>
      rw [Request.proxyType_of_refused hnone (generated_eq_error_iff.mpr (.inr ⟨_, hd, hs⟩))]
    | misfilled hfound hp => rw [Request.proxyType_of_misshapen hfound hp]

/-- No number makes a difference to what is wrong with a type. -/
theorem exists_generated_error : (∃ k, r.generated k = .error e) ↔ r.generated n = .error e := by
  refine ⟨fun ⟨k, hk⟩ => ?_, fun h => ⟨n, h⟩⟩
  rw [r.generated_renumber k, hk]
  rfl

/-- **Where the cell of the key holds what was generated for it**, if anything, a request is refused
for what is wrong with the type. -/
theorem refused_iff_generated
    (h : ∀ stored, c.find? r.key = some stored → ∃ p k, stored = .proxy p ∧ r.generated k = .ok p) :
    Refused r c n e ↔ ∃ k, r.generated k = .error e := by
  rw [exists_generated_error (n := n)]
  constructor
  · intro hrefused
    cases hrefused with
    | undescribed _ hd => exact generated_eq_error_iff.mpr (.inl hd)
    | unsynthesized _ hd hs => exact generated_eq_error_iff.mpr (.inr ⟨_, hd, hs⟩)
    | misfilled hfound hp =>
      obtain ⟨p, k, rfl, hgen⟩ := h _ hfound
      rw [Request.proxy?_proxy (Request.generated_eq_ok hgen).2] at hp
      cases hp
  · intro he
    cases hfound : c.find? r.key with
    | some stored =>
      obtain ⟨p, k, -, hgen⟩ := h stored hfound
      rw [r.generated_renumber n k, he] at hgen
      cases hgen
    | none =>
      rcases generated_eq_error_iff.mp he with hd | ⟨t, hd, hs⟩
      · exact .undescribed hfound hd
      · exact .unsynthesized hfound hd hs

/-- What a construction fails with is no refusal. -/
theorem construct_eq_error {args : List Value} (h : construct p args = .error e) :
    ∃ reason, e = .construction p.target reason := by
  have hmade := constructed_construction p args
  unfold construct at h
  generalize p.construction args = made at h hmade
  cases hmade with
  | built => cases h
  | unfit | failed | panicked => exact ⟨_, (Except.error.inj h).symm⟩

end Refusals

/-! ## Instances of a type from a cache -/

/-- The state that an instance of a type starts with. -/
def Environment.Starts (env : Environment ι H S) (p : ProxyType S) (state : S) : Mode S → Prop
  | .construct args => construct p args = .ok state
  | .decorate given => state = given
  | .bypass => state = env.initial p.type

theorem instantiate_eq_ok_iff {p : ProxyType S} {args : List Value} {i : Instance S} :
    instantiate p args = .ok i ↔ i.proxyType = p ∧ construct p args = .ok i.state := by
  obtain ⟨q, state⟩ := i
  unfold instantiate
  cases construct p args <;> simp [Except.map, eq_comm]

theorem instantiate_eq_error_iff {p : ProxyType S} {args : List Value} {e : ProxyError} :
    instantiate p args = .error e ↔ construct p args = .error e := by
  unfold instantiate
  cases construct p args <;> simp [Except.map]

namespace Environment

variable {env : Environment ι H S} {mode : Mode S} {p : ProxyType S}

theorem make_eq_ok_iff {i : Instance S} :
    env.make mode p = .ok i ↔ i.proxyType = p ∧ env.Starts p i.state mode := by
  cases mode with
  | construct args => exact instantiate_eq_ok_iff
  | decorate given =>
    obtain ⟨q, state⟩ := i
    simp [make, Interpose.decorate, Starts, eq_comm]
  | bypass =>
    obtain ⟨q, state⟩ := i
    simp [make, Interpose.decorate, Starts, eq_comm]

theorem make_eq_error_iff {e : ProxyError} :
    env.make mode p = .error e ↔ ∃ args, mode = .construct args ∧ construct p args = .error e := by
  cases mode with
  | construct args =>
    show instantiate p args = .error e ↔ _
    simpa using instantiate_eq_error_iff
  | decorate given => simp [make]
  | bypass => simp [make]

/-! A request is made, and an instance of what it gives. -/

variable {r : Request S} {c : Cache S} {m : Mint} {e : ProxyError}

theorem made_error_iff : (r.proxyType c m).result.bind (env.make mode) = .error e ↔
    Refused r c m.next e ∨ ∃ args p, mode = .construct args ∧
      (r.proxyType c m).result = .ok p ∧ construct p args = .error e := by
  refine bind_eq_error_iff.trans (or_congr result_eq_error_iff ?_)
  simp only [make_eq_error_iff]
  constructor
  · rintro ⟨p, hp, args, hmode, he⟩
    exact ⟨args, p, hmode, hp, he⟩
  · rintro ⟨args, p, hmode, hp, he⟩
    exact ⟨p, hp, args, hmode, he⟩

/-- Only the request is refused. -/
theorem made_refused_iff (he : e.refuses = true) :
    (r.proxyType c m).result.bind (env.make mode) = .error e ↔ Refused r c m.next e := by
  refine made_error_iff.trans (or_iff_left ?_)
  rintro ⟨args, p, -, -, hconstruct⟩
  obtain ⟨reason, rfl⟩ := construct_eq_error hconstruct
  cases he

/-- Only a construction fails otherwise. -/
theorem made_failed_iff (he : e.refuses = false) :
    (r.proxyType c m).result.bind (env.make mode) = .error e ↔ ∃ args p, mode = .construct args ∧
      (r.proxyType c m).result = .ok p ∧ construct p args = .error e := by
  refine made_error_iff.trans (or_iff_right fun h => ?_)
  cases he.symm.trans h.refuses

theorem made_ok_iff {i : Instance S} : (r.proxyType c m).result.bind (env.make mode) = .ok i ↔
    (r.proxyType c m).result = .ok i.proxyType ∧ env.Starts i.proxyType i.state mode := by
  refine bind_eq_ok_iff.trans ?_
  simp only [make_eq_ok_iff]
  constructor
  · rintro ⟨p, hp, rfl, hstarts⟩
    exact ⟨hp, hstarts⟩
  · rintro ⟨hp, hstarts⟩
    exact ⟨_, hp, rfl, hstarts⟩

end Environment

/-- **What comes of making an instance** of the type that a cache has for a key: the result, and the
process that is left. -/
structure FromCache [DecidableEq κ] (env : Environment ι H S) (w : Process κ ι H S) (c : κ)
    (key : Key) (mode : Mode S) (binding : ι) (result : Except ProxyError (Instance S))
    (after : Process κ ι H S) : Prop where
  /-- It is refused exactly in the ways in which the request is. -/
  refused : ∀ e, e.refuses = true → (result = .error e ↔
    Refused (env.request key) (w.store.caches c) w.store.mint.next e)
  /-- Then no code has run, be it of constructors, methods or hooks: any other would do. -/
  quiet : ∀ e, e.refuses = true → result = .error e →
    ∀ (ρ : Recoding S) (interceptors : ι → Interceptor H S),
      (w.recode ρ).perform (env.recode ρ interceptors) (.make (.cache c key) mode binding) =
        (w.perform env (.make (.cache c key) mode binding)).recode ρ
  /-- Otherwise only a construction fails, exactly when there is a type and its constructor does. -/
  failed : ∀ e, e.refuses = false → (result = .error e ↔ ∃ args p, mode = .construct args ∧
    ((env.request key).proxyType (w.store.caches c) w.store.mint).result = .ok p ∧
      construct p args = .error e)
  construction : ∀ e, e.refuses = false → result = .error e →
    ∃ target reason, e = .construction target reason
  /-- The instance is of the type that the cache has for the key, and starts with the state of the
  mode. -/
  made : ∀ i, result = .ok i ↔
    ((env.request key).proxyType (w.store.caches c) w.store.mint).result = .ok i.proxyType ∧
      env.Starts i.proxyType i.state mode
  type : ∀ i, result = .ok i → i.proxyType.type = key.target
  /-- If there is a type, it stays in the cache whatever comes of the instance: the next request for
  the key is a hit and gives it. -/
  cached : ∀ p, ((env.request key).proxyType (w.store.caches c) w.store.mint).result = .ok p →
    (env.request key).proxyType (after.store.caches c) after.store.mint =
      ⟨.ok p, { after.store.caches c with hits := (after.store.caches c).hits + 1 },
        after.store.mint, [.cacheHit key.target.name]⟩
  /-- All other instances stay as they are. -/
  instances : after.instances =
    w.instances ++ result.toOption.toList.map fun inst => ⟨inst, binding⟩
  handles : after.handles = w.handles
  hooks : after.hooks = w.hooks
  caches : ∀ c', c' ≠ c → after.store.caches c' = w.store.caches c'

/-- **What comes of making a sibling** of an instance. -/
structure FromSibling (w : Process κ ι H S) (b : Bound ι S) (args : List Value) (binding : ι)
    (result : Except ProxyError (Instance S)) (after : Process κ ι H S) : Prop where
  /-- Only a construction fails, exactly when the type's constructor does. -/
  failed : ∀ e, result = .error e ↔ construct b.inst.proxyType args = .error e
  construction : ∀ e, result = .error e → ∃ target reason, e = .construction target reason
  /-- The sibling has the type of the instance. -/
  made : ∀ i, result = .ok i ↔
    i.proxyType = b.inst.proxyType ∧ construct b.inst.proxyType args = .ok i.state
  instances : after.instances =
    w.instances ++ result.toOption.toList.map fun inst => ⟨inst, binding⟩
  handles : after.handles = w.handles
  hooks : after.hooks = w.hooks
  store : after.store = w.store

namespace Process

variable [DecidableEq κ] {env : Environment ι H S}

theorem made_fromCache (env : Environment ι H S) (w : Process κ ι H S) (c : κ) (key : Key)
    (mode : Mode S) (binding : ι) :
    let result := ((env.request key).proxyType (w.store.caches c) w.store.mint).result.bind
      (env.make mode)
    FromCache env w c key mode binding result
      (w.perform env (.make (.cache c key) mode binding)).process := by
  intro result
  refine ⟨fun e he => Environment.made_refused_iff he, fun e he herror ρ interceptors => ?_,
    fun e he => Environment.made_failed_iff he, fun e he herror => ?_,
    fun i => Environment.made_ok_iff, fun i hi => ?_, fun p hp => ?_, rfl, rfl, rfl,
    fun c' hc' => ?_⟩
  · refine perform_make_recode ρ binding fun p hp => ?_
    have hno := result_eq_error_iff.mpr ((Environment.made_refused_iff he).mp herror)
    cases hno.symm.trans (Option.some.inj hp)
  · obtain ⟨args, p, -, -, hconstruct⟩ := (Environment.made_failed_iff he).mp herror
    exact ⟨_, construct_eq_error hconstruct⟩
  · have hshape := (Request.find?_of_result (Environment.made_ok_iff.mp hi).1).2
    exact (Request.type_of_proxy? hshape).1.trans (env.declares key.target)
  · have hcache : (w.perform env (.make (.cache c key) mode binding)).process.store.caches c =
        ((env.request key).proxyType (w.store.caches c) w.store.mint).cache :=
      Function.update_self ..
    rw [hcache, Request.proxyType_again hp]
    exact congrArg (fun t : Tag => Request.Answer.mk _ _ _ [.cacheHit t.name])
      (env.declares key.target)
  · exact Function.update_of_ne hc' ..

theorem made_fromSibling (env : Environment ι H S) {w : Process κ ι H S} {i : Nat} {b : Bound ι S}
    (hb : w.instances[i]? = some b) (args : List Value) (binding : ι) :
    ∃ after, w.perform env (.make (.sibling i) (.construct args) binding) =
      ⟨after, .made (some (instantiate b.inst.proxyType args)), []⟩ ∧
      FromSibling w b args binding (instantiate b.inst.proxyType args) after := by
  refine ⟨{ w with instances := w.instances ++
    (instantiate b.inst.proxyType args).toOption.toList.map fun inst => ⟨inst, binding⟩ }, ?_, ?_⟩
  · simp only [perform, acquire, hb]
    rfl
  · refine ⟨fun e => instantiate_eq_error_iff, fun e he => ?_, fun j => instantiate_eq_ok_iff, rfl,
      rfl, rfl, rfl⟩
    exact ⟨_, construct_eq_error (instantiate_eq_error_iff.mp he)⟩

/-- Maintenance leaves the instances as they are. -/
theorem instances_run (env : Environment ι H S) : ∀ (tasks : List (Task κ ι S))
    (w : Process κ ι H S), (∀ t ∈ tasks, t.isMaintenance = true) →
      (run env tasks w).1.instances = w.instances
  | [], _, _ => rfl
  | task :: rest, w, h => by
    have hrest := instances_run env rest (w.perform env task).process fun t ht =>
      h t (List.mem_cons_of_mem _ ht)
    refine hrest.trans ?_
    cases task with
    | purge c => rfl
    | clear c => rfl
    | _ => cases h _ List.mem_cons_self

/-- **Making an instance is clean in every mode**, for any types, caches of any content, arguments
and interceptors. An instance of a type from a cache is refused for the type, or for what a caller
has put into its cell by hand, before anything runs; then a construction may fail, and nothing else.
A cell that holds what was generated for its key only ever refuses for the type. A sibling has the
type of its instance, also when caches were purged and cleared, and only its construction can fail.
No code takes part but that of the constructors that an instance is built with. -/
theorem creation_clean (env : Environment ι H S) (w : Process κ ι H S) (binding : ι) :
    (∀ c key mode, ∃ result after events,
      w.perform env (.make (.cache c key) mode binding) = ⟨after, .made (some result), events⟩ ∧
        FromCache env w c key mode binding result after) ∧
    (∀ c key,
      (∀ stored, (w.store.caches c).find? key = some stored → env.Generated key stored) →
      ∀ e, Refused (env.request key) (w.store.caches c) w.store.mint.next e ↔
        ∃ n, (env.request key).generated n = .error e) ∧
    (∀ i b args tasks, w.instances[i]? = some b → (∀ t ∈ tasks, t.isMaintenance = true) →
      let w' := (run env tasks w).1
      ∃ result after,
        w'.perform env (.make (.sibling i) (.construct args) binding) =
          ⟨after, .made (some result), []⟩ ∧
        FromSibling w' b args binding result after ∧ after.instances[i]? = some b) ∧
    ∀ origin mode (ρ : Recoding S) interceptors,
      (∀ p, (w.acquire env origin).result = some (.ok p) → ∀ b ∈ mode.builds p,
        ρ.constructors p.type b.position = id) →
      (w.recode ρ).perform (env.recode ρ interceptors) (.make origin mode binding) =
        (w.perform env (.make origin mode binding)).recode ρ := by
  refine ⟨fun c key mode => ⟨_, _, _, rfl, made_fromCache env w c key mode binding⟩,
    fun c key h e => refused_iff_generated fun stored hfound => ?_, ?_,
    fun origin mode ρ interceptors h => perform_make_recode ρ binding h⟩
  · rw [env.request_key] at hfound
    exact h stored hfound
  · intro i b args tasks hb htasks w'
    have hb' : w'.instances[i]? = some b := by
      rw [instances_run env tasks w htasks]
      exact hb
    obtain ⟨after, hperform, hsibling⟩ := made_fromSibling env hb' args binding
    refine ⟨_, after, hperform, hsibling, ?_⟩
    rw [hsibling.instances, List.getElem?_append_left (List.getElem?_eq_some_iff.mp hb').1]
    exact hb'

/-- A shelf that cannot be built of a null stays in the cache as a type, and the decorated one as an
instance: its sibling shares its type after a clearing. Its type is not refused, and its code is not
run where the state is given. -/
theorem creation_clean_shelves :
    let key : Key := ⟨⟨0, "tests::Shelf"⟩, ⟨0, "tests::Noop"⟩, .standard⟩
    let decorated : Task Unit Unit String := .make (.cache () key) (.decorate "maps") ()
    let w := (run shelves [decorated] (start ⟨0, []⟩ ())).1
    let ρ : Recoding String :=
      ⟨fun _ state _ => (.panicked (.literal "run"), state), fun _ _ _ _ => .ok "other"⟩
    (∃ result after, (w.perform shelves (.make (.cache () key) (.construct [.null]) ())).receipt =
        .made (some result) ∧
      result =
        .error (.construction "tests::Shelf" "no accessible constructor accepts (null)") ∧
      FromCache shelves w () key (.construct [.null]) () result after) ∧
    (∀ e, ¬ Refused (shelves.request key) (w.store.caches ()) w.store.mint.next e) ∧
    (∃ b result after, w.instances[0]? = some b ∧
      (run shelves [.clear ()] w).1.perform shelves (.make (.sibling 0) (.construct []) ()) =
        ⟨after, .made (some result), []⟩ ∧
      result = .ok ⟨b.inst.proxyType, ""⟩) ∧
    (w.recode ρ).perform (shelves.recode ρ shelves.interceptors) decorated =
      (w.perform shelves decorated).recode ρ := by
  intro key decorated w ρ
  obtain ⟨hcache, htype, hsibling, hquiet⟩ := creation_clean shelves w ()
  refine ⟨?_, fun e he => ?_, ?_, ?_⟩
  · obtain ⟨result, after, events, hperform, h⟩ := hcache () key (.construct [.null])
    have hreceipt : Receipt.made (some result) =
        (w.perform shelves (.make (.cache () key) (.construct [.null]) ())).receipt := by
      rw [hperform]
    refine ⟨result, after, hreceipt.symm, ?_, h⟩
    have hfails : (w.perform shelves (.make (.cache () key) (.construct [.null]) ())).receipt =
        .made (some (.error (.construction "tests::Shelf"
          "no accessible constructor accepts (null)"))) := rfl
    exact Option.some.inj (Receipt.made.inj (hreceipt.trans hfails))
  · have hsound : w.Sound shelves := (Sound.start ⟨0, []⟩ ()).perform decorated
    have hgenerated := (htype () key (fun stored hstored => (hsound ()).find? hstored) e).mp he
    obtain ⟨p, hp⟩ : ∃ p, (shelves.request key).generated 0 = .ok p := ⟨_, rfl⟩
    cases hp.symm.trans (exists_generated_error.mp hgenerated)
  · obtain ⟨b, hb⟩ : ∃ b, w.instances[0]? = some b := ⟨_, rfl⟩
    obtain ⟨result, after, hperform, h, -⟩ :=
      hsibling 0 b [] [.clear ()] hb (by simp [Task.isMaintenance])
    refine ⟨b, result, after, hb, hperform, ?_⟩
    refine (h.made ⟨b.inst.proxyType, ""⟩).mpr ⟨rfl, ?_⟩
    obtain rfl := Option.some.inj hb
    rfl
  · refine hquiet (.cache () key) (.decorate "maps") ρ shelves.interceptors fun p hp b hb => ?_
    cases hb

/-- A cell that a caller has filled by hand refuses every creation, although the type can be
generated. -/
theorem handFilled_refuses :
    let key : Key := ⟨⟨0, "tests::Shelf"⟩, ⟨0, "tests::Noop"⟩, .standard⟩
    let filled : Cache String := (Cache.empty.lookupOrMake key
      (fun m : Mint => (.ok (.ok (.foreign 7)), m, [])) ⟨0, []⟩).cache
    let w : Process Unit Unit Unit String := ⟨⟨fun _ => filled, ⟨0, []⟩⟩, [], [], ()⟩
    (∃ p, (shelves.request key).generated w.store.mint.next = .ok p) ∧
    (w.perform shelves (.make (.cache () key) (.construct []) ())).receipt =
      .made (some (.error (.generation "tests::Shelf" ""
        "cached proxy type has an unexpected shape"))) :=
  ⟨⟨_, rfl⟩, rfl⟩

end Process

end Interpose
