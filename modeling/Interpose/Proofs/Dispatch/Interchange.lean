import Interpose.Proofs.Dispatch.Guard
import Interpose.Proofs.Synthesis.Acceptance

/-!
# Methods that share a slot

A type may declare one method several times. Those that are intercepted share the slot of the first,
and with it the code; each keeps its own row, whose signature may name the parameters differently
and may be visible elsewhere. The hooks are shown the signature of the row that is called, so a hook
that looks at those differences can tell the rows apart, and nothing else can.

* `Signature.plain` takes the differences away, and the other `plain` follow it.
* `Interceptor.Plain` : the hooks do not look at them.
* Two signatures that are alike and have one name are the same when plain, so the two calls are
  compared with the call of the plain signature.

Results:
* `Protocol.plain`: an intercepted call follows the rules for the plain signature.
* **`interchangeable_of_route`**: rows of one slot, and that rows share a slot iff they share a
  name.
-/

namespace Interpose

variable {H S : Type}

/-! ## Plain signatures -/

/-- The signature without the names of the parameters, and without visibility and finality. -/
def Signature.plain (s : Signature) : Signature :=
  { s with
    params := s.params.map fun q => { q with name := "" }
    visibility := .exported
    isFinal := false }

/-- The call with a plain signature. -/
def Invocation.plain (call : Invocation S) : Invocation S :=
  { call with method := call.method.plain }

/-- What happens in a call, with a plain signature. -/
def Step.plain : Step S → Step S
  | .before call answer => .before call.plain answer
  | .original start args reply left => .original start args reply left
  | .after call outcome answer => .after call.plain outcome answer
  | .event e => .event e

/-- The hooks look neither at the names of parameters nor at visibility or finality. -/
structure Interceptor.Plain (icp : Interceptor H S) : Prop where
  before : ∀ (call : Invocation S) hooks, icp.before call.plain hooks = icp.before call hooks
  after : ∀ (call : Invocation S) outcome hooks,
    icp.after call.plain outcome hooks = icp.after call outcome hooks

namespace Signature

variable {a b : Signature}

/-- Alike signatures of one name are the same when plain. -/
theorem Alike.plain_eq (h : a.Alike b) (hname : a.name = b.name) : a.plain = b.plain := by
  have hparams (s : Signature) :
      s.params.map (fun q => { q with name := "" }) =
        (s.params.map (·.type)).map fun type => (⟨"", type⟩ : Param) := by
    rw [List.map_map]
    rfl
  unfold plain
  rw [hparams a, hparams b, h.params, hname, h.returns, h.failure, h.receiver]

/-- Which arguments fit does not depend on the names of the parameters. -/
theorem acceptsArgs_plain (s : Signature) (args : List Value) :
    s.plain.acceptsArgs args = s.acceptsArgs args := by
  unfold acceptsArgs Param.accept plain
  rw [List.length_map, List.zip_map_left, List.all_map]
  rfl

end Signature

/-! ## The rules for a plain signature -/

section Rules

variable {p : ProxyType S} {icp : Interceptor H S} {s : Signature} {o : Original S}
  {access : Access} {args : List Value} {state : S} {hooks : H}

theorem Turn.plain {proceed : Bool} {ran : List (Step S)} {left : S}
    {result : Except Payload Outcome} (ht : Turn p s o access args state proceed ran left result) :
    Turn p s.plain o access args state proceed (ran.map Step.plain) left result := by
  cases ht with
  | skipped => exact .skipped
  | outOfReach hs => exact .outOfReach hs
  | returned hs hrun => exact .returned hs hrun
  | failed hs hrun => exact .failed hs hrun
  | captured hs hc hrun => exact .captured hs hc hrun
  | escaped hs hc hrun => exact .escaped hs hc hrun

/-- **A call follows the rules for the plain signature** as well, if the hooks do not look at the
difference. -/
theorem Protocol.plain (hicp : icp.Plain) {reply : Reply Value} {left : S} {h : H}
    {acts : List (Step S)} (hp : Protocol p icp s o access args state hooks reply left h acts) :
    Protocol p icp s.plain o access args state hooks reply left h (acts.map Step.plain) := by
  have hbefore := hicp.before (seen p s args state) hooks
  cases hp with
  | refused hb => exact .refused (hbefore.trans hb)
  | burst hb => exact .burst (hbefore.trans hb)
  | escaped hb ht => exact .escaped (hbefore.trans hb) ht.plain
  | settled hb ht ha =>
    rw [List.map_append]
    exact .settled (hbefore.trans hb) ht.plain ((hicp.after _ _ _).trans ha)

end Rules

/-! ## Rows of one slot -/

/-- **The rows `a` at `i` and `b` at `j`** of a generated type can be called in each other's place,
and calls of both run the code `o`. -/
structure Interchangeable (p : ProxyType S) (o : Original S) (i j : Nat) (a b : Entry S) :
    Prop where
  /-- The same arguments fit both. -/
  arguments : ∀ args, a.signature.acceptsArgs args = b.signature.acceptsArgs args
  /-- The same results are accepted. -/
  results : ∀ v, a.signature.returns.accepts v = b.signature.returns.accepts v
  code : a.original = some o ∧ b.original = some o
  /-- If a call of either runs anything, it runs this code, and on the arguments of the call. -/
  runs : ∀ {H : Type} (icp : Interceptor H S) access args state hooks, ∀ index ∈ [i, j],
    ∀ step ∈ (Instance.call ⟨p, state⟩ icp access index args hooks).steps, step.Faithful o args
  /-- Calls of the two give the same, leave the same and ask the hooks for the same. -/
  calls : ∀ {H : Type} (icp : Interceptor H S), icp.Plain → ∀ access args state hooks,
    let first := Instance.call ⟨p, state⟩ icp access i args hooks
    let second := Instance.call ⟨p, state⟩ icp access j args hooks
    first.reply = second.reply ∧ first.state = second.state ∧ first.hooks = second.hooks ∧
      first.acts.map Step.plain = second.acts.map Step.plain

variable {d : Surface S} {f : Filter} {t : Target S} {p : ProxyType S} {i j k : Nat}
  {a b : Entry S}

/-- Intercepted rows of one name have alike signatures. -/
theorem alike_of_name (hp : Generated d f t p) (ha : p.entries[i]? = some a)
    (hb : p.entries[j]? = some b) (hra : a.route.isIntercept = true)
    (hrb : b.route.isIntercept = true) (hname : a.signature.name = b.signature.name) :
    a.signature.Alike b.signature := by
  -- an intercepted row has the signature of a slot of its own
  have hslot {i : Nat} {e : Entry S} (he : p.entries[i]? = some e)
      (hr : e.route.isIntercept = true) : ∃ s ∈ t.slots, s.signature = e.signature := by
    obtain ⟨m, hm⟩ := method_of_entry hp he
    have hentry := entryOf_getElem hp hm he
    obtain rfl := describe_ok hp.1
    cases hroute : e.route with
    | intercept k =>
      have hsel := ((hentry.intercept_iff k).mp hroute).1
      exact ⟨⟨i, m⟩, mem_select.mpr ⟨hm, hsel⟩, hentry.signature.symm⟩
    | direct => simp [hroute, Route.isIntercept] at hr
    | unavailable => simp [hroute, Route.isIntercept] at hr
  obtain ⟨r, hr, hra⟩ := hslot ha hra
  obtain ⟨s, hs', hsb⟩ := hslot hb hrb
  obtain ⟨hd, interceptor, options, serial, hs⟩ := hp
  obtain ⟨-, hpairs⟩ := ((acceptance_of_describe hd).succeeds_iff _ _ _).mp ⟨p, hs⟩
  rw [← hra, ← hsb] at hname ⊢
  exact hpairs r hr s hs' hname

/-- **Rows with one code and alike signatures** can be called in each other's place. -/
theorem interchangeable_of_alike {o : Original S} (ha : p.entries[i]? = some a)
    (hb : p.entries[j]? = some b) (hra : a.route = .intercept k) (hrb : b.route = .intercept k)
    (hoa : a.original = some o) (hob : b.original = some o)
    (halike : a.signature.Alike b.signature) (hname : a.signature.name = b.signature.name) :
    Interchangeable p o i j a b := by
  have hplain := halike.plain_eq hname
  refine ⟨fun args => ?_, fun v => ?_, ⟨hoa, hob⟩, fun icp access args state hooks => ?_,
    fun icp hicp access args state hooks => ?_⟩
  · rw [← a.signature.acceptsArgs_plain, hplain, b.signature.acceptsArgs_plain]
  · rw [halike.returns]
  · simp only [List.forall_mem_cons, Instance.call_eq_dispatch]
    exact ⟨(dispatch_handling ..).faithful ha hoa, (dispatch_handling ..).faithful hb hob, nofun⟩
  · intro first second
    have hfirst : first = intercept p icp a.signature o access args state hooks :=
      (Instance.call_eq_dispatch ..).trans (dispatch_intercept ha hoa hra)
    have hsecond : second = intercept p icp b.signature o access args state hooks :=
      (Instance.call_eq_dispatch ..).trans (dispatch_intercept hb hob hrb)
    have hrules := (intercept_protocol p icp a.signature o access args state hooks).plain hicp
    have hrules' := (intercept_protocol p icp b.signature o access args state hooks).plain hicp
    rw [← hfirst, hplain] at hrules
    rw [← hsecond] at hrules'
    exact hrules.unique hrules'

/-- **Methods that share a slot**, on every generated type and so under either setting for panics.
Intercepted rows share a slot iff they share a name. If they do, the slot is the first of the name,
and the rows can be called in each other's place: both run the code of the slot. -/
theorem interchangeable_of_route (hp : Generated d f t p) {k' : Nat}
    (ha : p.entries[i]? = some a) (hb : p.entries[j]? = some b) (hra : a.route = .intercept k)
    (hrb : b.route = .intercept k') :
    (k = k' ↔ a.signature.name = b.signature.name) ∧
      (k = k' → ∃ slot o, t.slotOf? a.signature.name = some k ∧ t.slots[k]? = some slot ∧
        slot.method.original = some o ∧ Interchangeable p o i j a b) := by
  have hfirst {i k : Nat} {e : Entry S} (he : p.entries[i]? = some e)
      (hr : e.route = .intercept k) : t.slotOf? e.signature.name = some k ∧
        ∃ slot, t.slots[k]? = some slot ∧ slot.method.original.isSome = true ∧
          e.original = slot.method.original := by
    obtain ⟨m, hm⟩ := method_of_entry hp he
    have hentry := entryOf_getElem hp hm he
    rw [hentry.signature]
    exact ⟨((hentry.intercept_iff k).mp hr).2, hentry.intercepted_runs k hr⟩
  obtain ⟨hka, slot, hslot, hsome, hoa⟩ := hfirst ha hra
  obtain ⟨hkb, slot', hslot', -, hob⟩ := hfirst hb hrb
  have hiff : k = k' ↔ a.signature.name = b.signature.name := by
    constructor
    · rintro rfl
      exact slotOf?_inj hka hkb
    · intro hname
      rw [hname, hkb] at hka
      exact (Option.some.inj hka).symm
  refine ⟨hiff, fun hk => ?_⟩
  obtain ⟨o, ho⟩ := Option.isSome_iff_exists.mp hsome
  have hname := hiff.mp hk
  have halike := alike_of_name hp ha hb (by rw [hra]; rfl) (by rw [hrb]; rfl) hname
  subst hk
  obtain rfl : slot = slot' := Option.some.inj (hslot.symm.trans hslot')
  exact ⟨slot, o, hka, hslot, ho,
    interchangeable_of_alike ha hb hra hrb (hoa.trans ho) (hob.trans ho) halike hname⟩

/-- The tank is filled through its second and third method alike, although they were declared with
different code; the interceptor keeps the names of the methods called. -/
theorem interchangeable_tank : ∃ t p a b, Generated tank .all t p ∧ p.entries[1]? = some a ∧
    p.entries[2]? = some b ∧ a.route = .intercept 0 ∧ b.route = .intercept 0 ∧
    (∃ o, Interchangeable p o 1 2 a b) ∧
    let icp : Interceptor (List String) Nat :=
      ⟨fun call names => (.ok true, call.method.name :: names), Interceptor.resume⟩
    let fill (i : Nat) := Instance.call ⟨p, 7⟩ icp .exclusive i [.uint 300] []
    icp.Plain ∧ (fill 1).acts.map Step.plain = (fill 2).acts.map Step.plain ∧
      (fill 1).acts.length = 3 ∧ ((fill 1).state, (fill 2).state) = (8, 8) ∧
      (fill 2).hooks = ["fill"] := by
  have hp : Generated tank .all _ _ := ⟨rfl, ⟨0, "tests::Noop"⟩, .standard, 0, rfl⟩
  obtain ⟨-, hshared⟩ := interchangeable_of_route hp (i := 1) (j := 2) rfl rfl rfl rfl
  obtain ⟨-, o, -, -, -, h⟩ := hshared rfl
  have hplain : Interceptor.Plain (⟨fun call names => (.ok true, call.method.name :: names),
      Interceptor.resume⟩ : Interceptor (List String) Nat) := ⟨fun _ _ => rfl, fun _ _ _ => rfl⟩
  exact ⟨_, _, _, _, hp, rfl, rfl, rfl, rfl, ⟨o, h⟩, hplain,
    (h.calls _ hplain .exclusive [.uint 300] 7 []).2.2.2, rfl, rfl, rfl⟩

end Interpose
