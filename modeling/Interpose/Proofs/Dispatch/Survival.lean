import Interpose.Proofs.Dispatch.Observation

/-!
# What becomes of a failure

A failure of the original passes through many hands on its way to the caller: a panic is captured,
the failure becomes an outcome, the hook after is told of it and passes it through, the dispatcher
returns it, a call by name wraps it, and typed code takes it apart again. None of them changes it.

* `Reply.FailsAs` : the failure that a reply of the original counts as.
* `PassesOn` : the hook after passes the outcome of a call through, in one of the ways that there
  are.
* `Surfaces` : what typed code may make of a failure. It is a value in none of the cases.

Results:
* `failed_of_passesOn`: an intercepted call ends with the failure, if the hook after passes it on.
* `surfaces_observe`: what typed code makes of a call that ended with a failure.
* **`failure_survives`**: from the code of the original to all of its callers.
-/

namespace Interpose

variable {H S : Type}

/-- The reply counts as the failure. A panic does where panics are captured. -/
inductive Reply.FailsAs (captures : Bool) : Reply Value → Failure → Prop
  | failed (f : Failure) : FailsAs captures (.failed f) f
  | captured (hc : captures = true) (payload : Payload) :
    FailsAs captures (.panicked payload) (.panicked payload)

/-- **The hook after passes the outcome of the call through**: it is the one that always does, it
was left out, or it resumes the outcome, with or without a value for a skipped call. -/
inductive PassesOn (icp : Interceptor H S) (call : Invocation S) (outcome : Outcome) (hooks : H) :
    Prop
  | passThrough (h : icp = .passThrough)
  | leftOut (before : Option (BeforeHook H S)) (h : icp = .hooks before none)
  | resumes (h : (icp.after call outcome hooks).1 = .ofExcept outcome.resume)
  | resumesOr (fallback : Value)
    (h : (icp.after call outcome hooks).1 = .ofExcept (outcome.resumeOr fallback))

/-- **What typed code makes of a failure.** -/
structure Surfaces (finish : Finish) (f : Failure) (seen : finish.Seen) : Prop where
  /-- It gets an error back iff the failure carries one of the type that the method declares. -/
  declared_iff : ∀ e, seen = .returned (.error e) ↔
    f = .raised e ∧ finish.declares = some e.type
  /-- A panic goes on with what it carried. -/
  resumed : ∀ payload, f = .panicked payload → seen = .panicked payload
  /-- Any other error is a panic that quotes the method and the failure. -/
  undeclared : ∀ e, f = .raised e → finish.declares ≠ some e.type →
    seen = .panicked (.owned
      (s!"undeclared failure from proxy method '{finish.method}': " ++ f.text))
  /-- It is never a result. -/
  no_value : ∀ x, seen ≠ .returned (.ok x)

/-! ## The call -/

section Call

variable {p : ProxyType S} {icp : Interceptor H S} {s : Signature} {o : Original S}
  {access : Access} {args : List Value} {state left : S} {hooks h : H} {reply : Reply Value}
  {f : Failure}

/-- All ways to pass on resume the outcome. -/
theorem PassesOn.answer {call : Invocation S} {outcome : Outcome}
    (hpass : PassesOn icp call outcome h) :
    ∃ fallback, (icp.after call outcome h).1 = .ofExcept (outcome.resumeOr fallback) := by
  cases hpass with
  | passThrough hicp => exact ⟨.null, by rw [hicp]; rfl⟩
  | leftOut before hicp => exact ⟨.null, by rw [hicp]; rfl⟩
  | resumes ha => exact ⟨.null, ha⟩
  | resumesOr fallback ha => exact ⟨fallback, ha⟩

/-- The original's turn ends with the failure that its reply counts as. -/
theorem Turn.of_failsAs (hs : access.suffices o.needs = true)
    (hrun : o.run state args = (reply, left)) (hf : reply.FailsAs p.options.catchPanics f) :
    Turn p s o access args state true [.original state args reply left] left
      (.ok (.failed f)) := by
  cases hf with
  | failed => exact .failed hs hrun
  | captured hc payload => exact .captured hs hc hrun

/-- **The call ends with the failure** of the original: the rules lead there, and they leave nothing
open. -/
theorem failed_of_passesOn (hb : icp.before (seen p s args state) hooks = (.ok true, h))
    (hs : access.suffices o.needs = true) (hrun : o.run state args = (reply, left))
    (hf : reply.FailsAs p.options.catchPanics f)
    (hpass : PassesOn icp (seen p s args left) (.failed f) h) :
    let ending := intercept p icp s o access args state hooks
    ending.reply = .failed f ∧ ending.state = left := by
  intro ending
  obtain ⟨fallback, hanswer⟩ := hpass.answer
  have ha : icp.after (seen p s args left) (.failed f) h =
      (.failed f, (icp.after (seen p s args left) (.failed f) h).2) := Prod.ext hanswer rfl
  have hrules : Protocol p icp s o access args state hooks
      ((Reply.failed f).bind (checkReturn s)) left _ _ := .settled hb (.of_failsAs hs hrun hf) ha
  obtain ⟨hreply, hleft, -⟩ := (intercept_protocol p icp s o access args state hooks).unique hrules
  exact ⟨hreply, hleft⟩

end Call

/-! ## Typed code -/

theorem surfaces_observe (finish : Finish) (f : Failure) :
    Surfaces finish f (finish.observe (.failed f)) := by
  cases f with
  | raised e =>
    rw [finish.observe_raised]
    by_cases he : finish.declares = some e.type
    · rw [if_pos he]
      refine ⟨fun e' => ⟨?_, ?_⟩, nofun, ?_, nofun⟩
      · rintro ⟨⟩
        exact ⟨rfl, he⟩
      · rintro ⟨⟨⟩, -⟩
        rfl
      · rintro e' ⟨⟩ hne
        exact absurd he hne
    · rw [if_neg he]
      refine ⟨fun e' => ⟨nofun, ?_⟩, nofun, ?_, nofun⟩
      · rintro ⟨⟨⟩, he'⟩
        exact absurd he' he
      · rintro e' ⟨⟩ -
        rfl
  | panicked payload =>
    rw [(finish.observe_panic payload).1]
    refine ⟨fun e => ⟨nofun, fun h => nomatch h.1⟩, ?_, nofun, nofun⟩
    rintro _ ⟨⟩
    rfl

/-! ## All callers -/

/-- **A failure of the original survives**, whatever it carries. Where an intercepted call runs code
that fails, and the hook after passes the outcome through, the call ends with the failure and leaves
what the code left. Callers by name get an error with the failure in it, and typed code gets back an
error of the type that the method declares, or panics: with what a captured panic carried, or over
the failure. -/
theorem failure_survives {p : ProxyType S} {icp : Interceptor H S} {i k : Nat} {e : Entry S}
    {o : Original S} {access : Access} {args : List Value} {state left : S} {hooks h : H}
    {reply : Reply Value} {f : Failure} (he : p.entries[i]? = some e)
    (hr : e.route = .intercept k) (ho : e.original = some o)
    (hb : icp.before (seen p e.signature args state) hooks = (.ok true, h))
    (hs : access.suffices o.needs = true) (hrun : o.run state args = (reply, left))
    (hf : reply.FailsAs p.options.catchPanics f)
    (hpass : PassesOn icp (seen p e.signature args left) (.failed f) h) :
    let ending := Instance.call ⟨p, state⟩ icp access i args hooks
    ending.reply = .failed f ∧ ending.state = left ∧
      (∀ name, p.resolve name args = .ok i → ∃ byName,
        Instance.invoke ⟨p, state⟩ icp name args hooks = .ok byName ∧ byName.state = left ∧
          ProxyError.ofReply byName.reply = .ok (.error (.interceptorFailure f))) ∧
      ∀ finish : Finish, Surfaces finish f (finish.observe ending.reply) := by
  intro ending
  have hends (access : Access) (hs : access.suffices o.needs = true) :
      (dispatch p icp access i args state hooks).reply = .failed f ∧
        (dispatch p icp access i args state hooks).state = left := by
    rw [dispatch_intercept he ho hr]
    exact failed_of_passesOn hb hs hrun hf hpass
  obtain ⟨hreply, hleft⟩ : ending.reply = .failed f ∧ ending.state = left := by
    simpa only [ending, Instance.call_eq_dispatch] using hends access hs
  refine ⟨hreply, hleft, fun name hname => ?_, fun finish => ?_⟩
  · -- a call by name has exclusive access, which suffices for any code
    obtain ⟨hreply', hleft'⟩ := hends .exclusive (by simp [Access.suffices])
    refine ⟨dispatch p icp .exclusive i args state hooks, ?_, hleft', by rw [hreply']; rfl⟩
    unfold Instance.invoke
    rw [hname]
    rfl
  · rw [hreply]
    exact surfaces_observe finish f

/-- A till that refuses to be overdrawn, and counts how often it did. -/
def till : Surface Nat where
  type := ⟨3, "tests::Till"⟩
  qualified := "tests::Till"
  simple := "Till"
  isSealed := false
  constructors := [⟨"new", [], .exported, some fun _ => .ok 0⟩]
  methods :=
    [⟨⟨"withdraw", [⟨"amount", .uint "u64"⟩], .unit, some "Overdrawn", .exclusive, .exported,
        false⟩,
      some ⟨.exclusive, fun n _ =>
        (.failed (.raised (.application ⟨"Overdrawn", 5, "overdrawn by 5"⟩)), n + 1)⟩⟩]

/-- The till's error comes back to typed code that declares its type, and is a panic for code that
declares none. The panic of the shelf is captured and goes on with what it carried, whatever typed
code declares. -/
theorem failure_survives_till :
    (∃ t p, Generated till .all t p ∧
      let icp : Interceptor Nat Nat := .hooks (some fun _ n => (.ok true, n + 1)) none
      let overdrawn : Error := .application ⟨"Overdrawn", 5, "overdrawn by 5"⟩
      let ending := Instance.call ⟨p, 7⟩ icp .exclusive 0 [.uint 5] 0
      (∃ byName, Instance.invoke ⟨p, 7⟩ icp "withdraw" [.uint 5] 0 = .ok byName ∧
        byName.state = 8 ∧
        ProxyError.ofReply byName.reply = .ok (.error (.interceptorFailure (.raised overdrawn)))) ∧
      (Finish.mk .unit (some "Overdrawn") "withdraw").observe ending.reply =
        .returned (.error overdrawn) ∧
      (Finish.mk .unit none "withdraw").observe ending.reply = .panicked (.owned
        "undeclared failure from proxy method 'withdraw': overdrawn by 5")) ∧
    ∃ t p, Generated shelf .all t p ∧
      let ending := Instance.call ⟨p, "atlas"⟩ (.passThrough : Interceptor Unit String) .exclusive
        5 [] ()
      ending.reply = .failed (.panicked (.literal "dropped")) ∧ ending.state = "" ∧
      (Finish.mk .string (some "Overdrawn") "drop").observe ending.reply =
        .panicked (.literal "dropped") := by
  constructor
  · refine ⟨_, _, ⟨rfl, ⟨0, "tests::Noop"⟩, .standard, 0, rfl⟩, ?_⟩
    intro icp overdrawn ending
    have hsurvives : ending.reply = .failed (.raised overdrawn) ∧ ending.state = 8 ∧ _ ∧ _ :=
      failure_survives (h := 1) rfl rfl rfl rfl rfl rfl (.failed _) (.leftOut _ rfl)
    obtain ⟨-, -, hname, hfinish⟩ := hsurvives
    exact ⟨hname "withdraw" rfl,
      ((hfinish ⟨.unit, some "Overdrawn", "withdraw"⟩).declared_iff _).mpr ⟨rfl, rfl⟩,
      (hfinish ⟨.unit, none, "withdraw"⟩).undeclared _ rfl nofun⟩
  · refine ⟨_, _, ⟨rfl, ⟨0, "tests::Noop"⟩, .standard, 0, rfl⟩, ?_⟩
    intro ending
    have hsurvives : ending.reply = .failed (.panicked (.literal "dropped")) ∧
        ending.state = "" ∧ _ ∧ _ :=
      failure_survives rfl rfl rfl rfl rfl rfl (.captured rfl _) (.passThrough rfl)
    obtain ⟨hreply, hleft, -, hfinish⟩ := hsurvives
    exact ⟨hreply, hleft, (hfinish ⟨.string, some "Overdrawn", "drop"⟩).resumed _ rfl⟩

end Interpose
