import Interpose.Proofs.Dispatch.Observation
import Interpose.Proofs.Dispatch.Effect
import Interpose.Proofs.Dispatch.Renaming

/-!
# Panics, captured or not

Whether a type captures panics matters in one rule of the protocol only: what the dispatcher makes
of a panic of the original in an intercepted call. Types that differ in this setting, in number and
name, and in the type of interceptor that they were generated for are variants of one another; where
no original panics, or where the setting is the same, their calls come to the same. A panic of a
hook, or of an original that is called directly, meets no rule that captures it.

* `ProxyType.Varies` : types that differ in number, name, interceptor and setting at most.
* `ProxyType.Indifferent` : what was done is the same under another setting.
* `Interceptor.Confuses` : the hooks do the same under two names. All do under one name
  (`confuses_self`), and those that do not look do under any two (`NameBlind.confuses`).
* `Ending.Alike` : two calls that ended alike, up to names.
* `Placed` : where the panics of a call go.

Results:
* `varies_of_synthesize`: what is generated from one target under two settings are variants.
* `dispatch_variant`: a call to which the setting does not matter, through two variants.
* `dispatch_placed`: the panics of any call.
-/

namespace Interpose

variable {H S : Type}

/-- The type under another number and name, for another type of interceptor, with panics captured
or not. -/
def ProxyType.variant (p : ProxyType S) (serial : Nat) (name : String) (interceptor : Tag)
    (captures : Bool) : ProxyType S :=
  { p with serial, name, interceptor, options := { p.options with catchPanics := captures } }

/-- The second type is the first under another number and name, for another type of interceptor,
with panics captured or not. -/
def ProxyType.Varies (p q : ProxyType S) : Prop :=
  ∃ n name tag captures, q = p.variant n name tag captures

/-- What was done on the type does not depend on a setting: no original panicked, or the type has
it. -/
def ProxyType.Indifferent (p : ProxyType S) (captures : Bool) (acts : List (Step S)) : Prop :=
  acts.any Step.panics = false ∨ captures = p.options.catchPanics

theorem ProxyType.Indifferent.mono {p : ProxyType S} {captures : Bool} {acts acts' : List (Step S)}
    (h : p.Indifferent captures acts) (hsub : acts' ⊆ acts) : p.Indifferent captures acts' := by
  refine h.imp_left fun hcalm => ?_
  rw [List.any_eq_false] at hcalm ⊢
  exact fun step hstep => hcalm step (hsub hstep)

/-- **The interceptor does the same under two names of the generated type**, up to what `same`
leaves open of its state: names that it has written down, say. -/
structure Interceptor.Confuses (icp : Interceptor H S) (same : H → H → Prop)
    (name name' : String) : Prop where
  before : ∀ (call : Invocation S) h h' answer left, same h h' →
    icp.before { call with proxy := name } h = (answer, left) →
      ∃ left', icp.before { call with proxy := name' } h' = (answer, left') ∧ same left left'
  after : ∀ (call : Invocation S) outcome h h' answer left, same h h' →
    icp.after { call with proxy := name } outcome h = (answer, left) →
      ∃ left', icp.after { call with proxy := name' } outcome h' = (answer, left') ∧
        same left left'

/-- **Two calls ended alike**, up to the names of generated types. -/
structure Ending.Alike (same : H → H → Prop) (a b : Ending H S) : Prop where
  reply : b.reply = a.reply
  state : b.state = a.state
  hooks : same a.hooks b.hooks
  acts : b.acts.map Step.unnamed = a.acts.map Step.unnamed

/-- **The reply reaches the caller as a panic**, in typed code of whatever type and in a call by
name. -/
structure Reply.Raises (reply : Reply Value) (payload : Payload) : Prop where
  panicked : reply = .panicked payload
  typed : ∀ finish : Finish, finish.observe reply = .panicked payload
  byName : ProxyError.ofReply reply = .panicked payload

/-- **Where the panics of a call go**, on a row that is intercepted or not, with panics captured or
not. -/
structure Placed (captures intercepted : Bool) (ending : Ending H S) : Prop where
  /-- The target stays as the original left it when it panicked. -/
  left : ∀ start args payload left, .original start args (.panicked payload) left ∈ ending.steps →
    ending.state = left
  /-- A panic that is captured is an outcome with the same payload, and the hook after is told of
  it. -/
  captured : intercepted = true → captures = true → ∀ start args payload left,
    .original start args (.panicked payload) left ∈ ending.steps →
      ∃ call answer, call.target = left ∧
        .after call (.failed (.panicked payload)) answer ∈ ending.steps
  /-- A panic that is not captured reaches the caller, and the hook after is not asked. -/
  escaped : intercepted = true → captures = false → ∀ start args payload left,
    .original start args (.panicked payload) left ∈ ending.steps →
      ending.reply.Raises payload ∧ ∀ call outcome answer, .after call outcome answer ∉ ending.steps
  /-- A panic of an original that is called directly reaches the caller. -/
  direct : intercepted = false → ∀ start args payload left,
    .original start args (.panicked payload) left ∈ ending.steps →
      ending.reply.Raises payload
  /-- So does a panic of either hook. -/
  before : ∀ call payload, .before call (.panicked payload) ∈ ending.steps →
    ending.reply.Raises payload
  after : ∀ call outcome payload, .after call outcome (.panicked payload) ∈ ending.steps →
    ending.reply.Raises payload

/-! ## Variants of a type -/

section Variants

variable {p : ProxyType S} {icp : Interceptor H S} {s : Signature} {o : Original S}
  {access : Access} {args : List Value} {state : S} {hooks : H} {n : Nat} {name : String}
  {tag : Tag} {captures : Bool} {same : H → H → Prop} {hooks' : H}

/-- Any interceptor does the same under one name. -/
theorem Interceptor.confuses_self (icp : Interceptor H S) (name : String) :
    icp.Confuses Eq name name where
  before := by
    rintro call h _ answer left rfl hb
    exact ⟨left, hb, rfl⟩
  after := by
    rintro call outcome h _ answer left rfl ha
    exact ⟨left, ha, rfl⟩

/-- One that does not look at the name does the same under any two. -/
theorem Interceptor.NameBlind.confuses (hicp : icp.NameBlind) (name name' : String) :
    icp.Confuses Eq name name' where
  before := by
    rintro call h _ answer left rfl hb
    exact ⟨left, (hicp.before { call with proxy := name' } h).symm.trans
      ((hicp.before { call with proxy := name } h).trans hb), rfl⟩
  after := by
    rintro call outcome h _ answer left rfl ha
    exact ⟨left, (hicp.after { call with proxy := name' } outcome h).symm.trans
      ((hicp.after { call with proxy := name } outcome h).trans ha), rfl⟩

theorem Interceptor.Confuses.before_variant (hicp : icp.Confuses same p.name name)
    (hsame : same hooks hooks') {answer : Reply Bool} {h : H}
    (hb : icp.before (seen p s args state) hooks = (answer, h)) :
    ∃ h', icp.before (seen (p.variant n name tag captures) s args state) hooks' = (answer, h') ∧
      same h h' :=
  hicp.before (seen p s args state) hooks hooks' answer h hsame hb

theorem Interceptor.Confuses.after_variant (hicp : icp.Confuses same p.name name)
    (hsame : same hooks hooks') {outcome : Outcome} {answer : Reply Value} {h : H}
    (ha : icp.after (seen p s args state) outcome hooks = (answer, h)) :
    ∃ h', icp.after (seen (p.variant n name tag captures) s args state) outcome hooks' =
      (answer, h') ∧ same h h' :=
  hicp.after (seen p s args state) outcome hooks hooks' answer h hsame ha

/-- Where the original does not panic, or panics are captured or not as before, the middle of a call
goes the same way for a variant. -/
theorem Turn.variant {proceed : Bool} {ran : List (Step S)} {left : S}
    {result : Except Payload Outcome} (ht : Turn p s o access args state proceed ran left result)
    (hset : p.Indifferent captures ran) (n : Nat) (name : String) (tag : Tag) :
    Turn (p.variant n name tag captures) s o access args state proceed ran left result := by
  cases ht with
  | skipped => exact .skipped
  | outOfReach hs => exact .outOfReach hs
  | returned hs hrun => exact .returned hs hrun
  | failed hs hrun => exact .failed hs hrun
  | captured hs hc hrun =>
    rcases hset with hcalm | rfl
    · cases hcalm
    · exact Turn.captured (p := p.variant n name tag _) hs hc hrun
  | escaped hs hc hrun =>
    rcases hset with hcalm | rfl
    · cases hcalm
    · exact Turn.escaped (p := p.variant n name tag _) hs hc hrun

/-- **Where the setting does not matter, a call follows the rules for every variant**, with the same
acts up to names. -/
theorem Protocol.variant {reply : Reply Value} {left : S} {h : H} {acts : List (Step S)}
    (hp : Protocol p icp s o access args state hooks reply left h acts)
    (hset : p.Indifferent captures acts) (hicp : icp.Confuses same p.name name)
    (hsame : same hooks hooks') (n : Nat) (tag : Tag) :
    ∃ h' acts', Protocol (p.variant n name tag captures) icp s o access args state hooks' reply
      left h' acts' ∧ same h h' ∧ acts'.map Step.unnamed = acts.map Step.unnamed := by
  cases hp with
  | refused hb =>
    obtain ⟨h', hb', hsame'⟩ := hicp.before_variant hsame hb
    exact ⟨h', _, .refused hb', hsame', rfl⟩
  | burst hb =>
    obtain ⟨h', hb', hsame'⟩ := hicp.before_variant hsame hb
    exact ⟨h', _, .burst hb', hsame', rfl⟩
  | escaped hb ht =>
    obtain ⟨h', hb', hsame'⟩ := hicp.before_variant hsame hb
    refine ⟨h', _, .escaped hb' (ht.variant (hset.mono ?_) n name tag), hsame', rfl⟩
    exact fun step => List.mem_cons_of_mem _
  | settled hb ht ha =>
    obtain ⟨h', hb', hsame'⟩ := hicp.before_variant hsame hb
    obtain ⟨h'', ha', hsame''⟩ := hicp.after_variant hsame' ha
    refine ⟨h'', _, .settled hb' (ht.variant (hset.mono ?_) n name tag) ha', hsame'', ?_⟩
    · exact fun step hran => List.mem_append_left _ (List.mem_cons_of_mem _ hran)
    · simp only [List.cons_append, List.map_cons, List.map_append, List.map_nil]
      rfl

theorem intercept_variant
    (hset : p.Indifferent captures (intercept p icp s o access args state hooks).acts)
    (hicp : icp.Confuses same p.name name) (hsame : same hooks hooks') (n : Nat) (tag : Tag) :
    (intercept p icp s o access args state hooks).Alike same
      (intercept (p.variant n name tag captures) icp s o access args state hooks') := by
  obtain ⟨h', acts', hrules, hsame', hacts⟩ :=
    (intercept_protocol p icp s o access args state hooks).variant hset hicp hsame n tag
  obtain ⟨hreply, hleft, rfl, rfl⟩ := (intercept_protocol ..).unique hrules
  exact ⟨hreply, hleft, hsame', hacts⟩

/-- **A call by index to which the setting does not matter** ends alike for every variant. -/
theorem dispatch_variant {index : Nat}
    (hset : p.Indifferent captures (dispatch p icp access index args state hooks).acts)
    (hicp : icp.Confuses same p.name name) (hsame : same hooks hooks') (n : Nat) (tag : Tag) :
    (dispatch p icp access index args state hooks).Alike same
      (dispatch (p.variant n name tag captures) icp access index args state hooks') := by
  have hentries : (p.variant n name tag captures).entries = p.entries := rfl
  unfold dispatch at hset ⊢
  rw [hentries]
  cases he : p.entries[index]? with
  | none => exact ⟨rfl, rfl, hsame, rfl⟩
  | some e =>
    obtain ⟨signature, original, route⟩ := e
    cases original with
    | none => cases route <;> exact ⟨rfl, rfl, hsame, rfl⟩
    | some o =>
      cases route with
      | unavailable => exact ⟨rfl, rfl, hsame, rfl⟩
      | direct => exact ⟨rfl, rfl, hsame, rfl⟩
      | intercept k =>
        simp only [he] at hset
        exact intercept_variant hset hicp hsame n tag

end Variants

/-- What synthesis makes of one target under two settings, for any types of interceptors, are
variants. -/
theorem varies_of_synthesize {t : Target S} {tag tag' : Tag} {f : Filter} {c c' : Bool}
    {n n' : Nat} {p q : ProxyType S} (hp : t.synthesize tag ⟨f, c⟩ n = .ok p)
    (hq : t.synthesize tag' ⟨f, c'⟩ n' = .ok q) : p.Varies q := by
  obtain ⟨a, ha, rfl⟩ := synthesize_eq_ok hp
  obtain ⟨a', ha', rfl⟩ := synthesize_eq_ok hq
  cases ha.symm.trans ha'
  exact ⟨_, _, _, _, rfl⟩

/-- A generated type has the options that it was generated with. -/
theorem options_of_synthesize {t : Target S} {interceptor : Tag} {options : Options} {n : Nat}
    {p : ProxyType S} (hp : t.synthesize interceptor options n = .ok p) : p.options = options := by
  obtain ⟨a, -, rfl⟩ := synthesize_eq_ok hp
  rfl

/-! ## The panics of a call -/

section Panics

variable {p : ProxyType S} {icp : Interceptor H S} {s : Signature} {o : Original S}
  {access : Access} {args : List Value} {state left : S} {hooks h : H} {reply : Reply Value}
  {acts : List (Step S)}

theorem Reply.Raises.of_panicked {payload : Payload} (hreply : reply = .panicked payload) :
    reply.Raises payload := by
  subst hreply
  exact ⟨rfl, fun finish => (finish.observe_panic payload).2, rfl⟩

/-- What becomes of a panic of the original in the middle of a call. -/
theorem Turn.panicked {proceed : Bool} {ran : List (Step S)} {start left' : S}
    {args' : List Value} {payload : Payload} {result : Except Payload Outcome}
    (ht : Turn p s o access args state proceed ran left result)
    (hran : .original start args' (.panicked payload) left' ∈ ran) :
    left' = left ∧ ((p.options.catchPanics = true ∧ result = .ok (.failed (.panicked payload))) ∨
      (p.options.catchPanics = false ∧ result = .error payload)) := by
  cases ht with
  | skipped | outOfReach | returned | failed => simp at hran
  | captured hs hc hrun =>
    simp only [List.mem_singleton, Step.original.injEq, Reply.panicked.injEq] at hran
    obtain ⟨-, -, rfl, rfl⟩ := hran
    exact ⟨rfl, .inl ⟨hc, rfl⟩⟩
  | escaped hs hc hrun =>
    simp only [List.mem_singleton, Step.original.injEq, Reply.panicked.injEq] at hran
    obtain ⟨-, -, rfl, rfl⟩ := hran
    exact ⟨rfl, .inr ⟨hc, rfl⟩⟩

/-- The middle of a call does not ask the hook before. -/
theorem Turn.before_not_mem {proceed : Bool} {ran : List (Step S)} {left : S}
    {result : Except Payload Outcome} (ht : Turn p s o access args state proceed ran left result)
    (call : Invocation S) (answer : Reply Bool) : .before call answer ∉ ran := by
  cases ht <;> simp

/-- What becomes of a panic of the original in an intercepted call. -/
theorem Protocol.original_panicked {start left' : S} {args' : List Value} {payload : Payload}
    (hp : Protocol p icp s o access args state hooks reply left h acts)
    (hran : .original start args' (.panicked payload) left' ∈ acts) :
    left' = left ∧ ((p.options.catchPanics = true ∧
      ∃ answer, .after (seen p s args left) (.failed (.panicked payload)) answer ∈ acts) ∨
    (p.options.catchPanics = false ∧ reply = .panicked payload ∧
      ∀ call outcome answer, .after call outcome answer ∉ acts)) := by
  cases hp with
  | refused hb => simp at hran
  | burst hb => simp at hran
  | escaped hb ht =>
    simp only [List.mem_cons, reduceCtorEq, false_or] at hran
    obtain ⟨rfl, ⟨-, hresult⟩ | ⟨hc, hresult⟩⟩ := ht.panicked hran
    · cases hresult
    · cases hresult
      exact ⟨rfl, .inr ⟨hc, rfl, by simp [ht.after_not_mem]⟩⟩
  | @settled _ _ _ _ _ _ answer hb ht ha =>
    simp only [List.cons_append, List.mem_cons, List.mem_append, reduceCtorEq, false_or,
      List.not_mem_nil, or_false] at hran
    obtain ⟨rfl, ⟨hc, hresult⟩ | ⟨-, hresult⟩⟩ := ht.panicked hran
    · cases hresult
      exact ⟨rfl, .inl ⟨hc, answer, by simp⟩⟩
    · cases hresult

/-- A panic of the hook before ends an intercepted call. -/
theorem Protocol.before_panicked {call : Invocation S} {payload : Payload}
    (hp : Protocol p icp s o access args state hooks reply left h acts)
    (hasked : .before call (.panicked payload) ∈ acts) : reply = .panicked payload := by
  cases hp with
  | refused hb => simp at hasked
  | burst hb =>
    simp only [List.mem_singleton, Step.before.injEq, Reply.panicked.injEq] at hasked
    rw [hasked.2]
  | escaped hb ht => simp [ht.before_not_mem] at hasked
  | settled hb ht ha => simp [ht.before_not_mem] at hasked

/-- So does a panic of the hook after. -/
theorem Protocol.after_panicked {call : Invocation S} {outcome : Outcome} {payload : Payload}
    (hp : Protocol p icp s o access args state hooks reply left h acts)
    (hasked : .after call outcome (.panicked payload) ∈ acts) : reply = .panicked payload := by
  cases hp.verdict hasked with
  | panicked => rfl

/-- **The panics of an intercepted call** go where they belong. -/
theorem intercept_placed :
    Placed p.options.catchPanics true (intercept p icp s o access args state hooks) := by
  have hp := intercept_protocol p icp s o access args state hooks
  generalize intercept p icp s o access args state hooks = ending at hp ⊢
  have hacts {step : Step S} (hact : step.isAct = true) (hmem : step ∈ ending.steps) :
      step ∈ ending.acts := List.mem_filter.mpr ⟨hmem, hact⟩
  refine ⟨fun start args payload left hmem => ?_, fun _ hc start args payload left hmem => ?_,
    fun _ hc start args payload left hmem => ?_, nofun,
    fun call payload hmem => .of_panicked (hp.before_panicked (hacts rfl hmem)),
    fun call outcome payload hmem => .of_panicked (hp.after_panicked (hacts rfl hmem))⟩
  · exact (hp.original_panicked (hacts rfl hmem)).1.symm
  · obtain ⟨rfl, ⟨-, answer, ha⟩ | ⟨hc', -⟩⟩ := hp.original_panicked (hacts rfl hmem)
    · exact ⟨_, answer, rfl, List.mem_of_mem_filter ha⟩
    · cases hc.symm.trans hc'
  · obtain ⟨rfl, ⟨hc', -⟩ | ⟨-, hreply, hnone⟩⟩ := hp.original_panicked (hacts rfl hmem)
    · cases hc.symm.trans hc'
    · exact ⟨.of_panicked hreply, fun call outcome answer hafter =>
        hnone _ _ _ (hacts rfl hafter)⟩

/-- A call in which nothing happens has no panics. -/
theorem Placed.of_quiet {captures intercepted : Bool} {ending : Ending H S}
    (hsteps : ending.steps = []) : Placed captures intercepted ending := by
  constructor <;> simp [hsteps]

/-- **The panics of a direct call** reach the caller. -/
theorem direct_placed {captures : Bool} {method : String} :
    let (reply, left, ran) := o.call access method state args
    Placed captures false (⟨reply, left, hooks, ran⟩ : Ending H S) := by
  cases hs : access.suffices o.needs with
  | false =>
    rw [call_of_not_suffices hs]
    exact .of_quiet rfl
  | true =>
    rw [call_of_suffices hs]
    refine ⟨fun start args' payload left hmem => ?_, nofun, nofun,
      fun _ start args' payload left hmem => ?_, fun call payload hmem => ?_,
      fun call outcome payload hmem => ?_⟩
    · simp only [List.mem_singleton, Step.original.injEq] at hmem
      exact hmem.2.2.2.symm
    · simp only [List.mem_singleton, Step.original.injEq] at hmem
      exact .of_panicked hmem.2.2.1.symm
    · simp at hmem
    · simp at hmem

/-- **The panics of a call by index** go where they belong, whether its row is intercepted or
not. -/
theorem dispatch_placed {index : Nat} {e : Entry S} (he : p.entries[index]? = some e) :
    Placed p.options.catchPanics e.route.isIntercept
      (dispatch p icp access index args state hooks) := by
  have h := dispatch_handling p icp access index args state hooks
  generalize dispatch p icp access index args state hooks = ending at h ⊢
  cases h with
  | unknown hnone => exact .of_quiet rfl
  | unroutable _ _ => exact .of_quiet rfl
  | direct he' ho hr =>
    cases he.symm.trans he'
    rw [hr]
    exact direct_placed
  | intercepted he' ho hr =>
    cases he.symm.trans he'
    rw [hr]
    exact intercept_placed

end Panics

end Interpose
