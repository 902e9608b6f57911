import Interpose.Proofs.Dispatch.Protocol

/-!
# What one call asks and leaves

The protocol read for two things only: which hooks a call asked, and what it left of the target.
Both are read off the acts of the call, for every call by index on any route table.

* A call is cut short when its hook before fails or panics, or when its original panics and nothing
  captures that. A call that asks no hook is never cut short.
* An original is admitted when the call is direct, or when the hook before has said yes, and when
  the access suffices.

Results:
* `Protocol.asked`, `Protocol.left_eq`: an intercepted call.
* `Handling.asked`: a call asks nothing, or the hook before alone and is cut short, or both hooks
  about the same call.
* `Handling.state_eq`: the target is left as the admitted original alone leaves it.
-/

namespace Interpose

variable {H S : Type}

/-! ## Which hooks are asked -/

/-- The two hooks. -/
inductive Phase where
  | before
  | after
deriving DecidableEq, Repr

/-- The hook that an act asked, and the call that it was asked about. -/
def Step.hook? : Step S → Option (Phase × Invocation S)
  | .before call _ => some (.before, call)
  | .after call _ _ => some (.after, call)
  | _ => none

/-- Did the hook before fail or panic? -/
def Step.refuses : Step S → Bool
  | .before _ (.ok _) => false
  | .before _ _ => true
  | _ => false

/-- Did the hook before say yes? -/
def Step.admits : Step S → Bool
  | .before _ (.ok proceed) => proceed
  | _ => false

/-- Did the original panic? -/
def Step.panics : Step S → Bool
  | .original _ _ (.panicked _) _ => true
  | _ => false

/-- Is a call with these acts ended by its hook before, or by a panic of the original that nothing
captures? Only calls that ask a hook are. -/
def cutShort (captures : Bool) (acts : List (Step S)) : Bool :=
  acts.any Step.refuses || (!captures && acts.any Step.isBefore && acts.any Step.panics)

/-- May a call of the row with these acts run the original? Direct calls may; intercepted calls
may when the hook before has said yes. -/
def Entry.mayRun (e : Entry S) (acts : List (Step S)) : Bool :=
  e.route = .direct || (e.route.isIntercept && acts.any Step.admits)

/-- The original that a call by index with these acts is to run, if it is to run one. -/
def ProxyType.admitted? (p : ProxyType S) (access : Access) (index : Nat)
    (acts : List (Step S)) : Option (Original S) :=
  p.entries[index]?.bind fun e => e.original.bind fun o =>
    if access.suffices o.needs && e.mayRun acts then some o else none

variable {p : ProxyType S} {icp : Interceptor H S} {s : Signature} {o : Original S}
  {access : Access} {args : List Value} {state : S} {hooks : H}

/-- What the hooks were asked in one call, and whether the call was cut short. -/
inductive Asked : Bool → List (Phase × Invocation S) → Prop
  | nothing : Asked false []
  | cut (call : Invocation S) : Asked true [(.before, call)]
  | both (call : Invocation S) (left : S) :
    Asked false [(.before, call), (.after, { call with target := left })]

/-- The middle of a call asks no hook. -/
theorem Turn.asks_nothing {proceed : Bool} {ran : List (Step S)} {left : S}
    {result : Except Payload Outcome} (ht : Turn p s o access args state proceed ran left result) :
    ran.filterMap Step.hook? = [] ∧ ran.any Step.refuses = false ∧
      ran.any Step.admits = false := by
  cases ht <;> exact ⟨rfl, rfl, rfl⟩

/-- A panic that leads to an outcome was captured. -/
theorem Turn.panics_captured {proceed : Bool} {ran : List (Step S)} {left : S} {outcome : Outcome}
    (ht : Turn p s o access args state proceed ran left (.ok outcome)) :
    (!p.options.catchPanics && ran.any Step.panics) = false := by
  cases ht with
  | captured hs hc hrun => simp [hc]
  | skipped | outOfReach | returned | failed => simp [Step.panics]

/-- The middle of a call leaves what the original leaves, if it is told to run and can. -/
theorem Turn.left_eq {proceed : Bool} {ran : List (Step S)} {left : S}
    {result : Except Payload Outcome} (ht : Turn p s o access args state proceed ran left result) :
    left = if access.suffices o.needs && proceed then (o.run state args).2 else state := by
  cases ht with
  | skipped => simp
  | outOfReach hs => simp [hs]
  | returned hs hrun | failed hs hrun | captured hs hc hrun | escaped hs hc hrun => simp [hs, hrun]

theorem Protocol.asked {reply : Reply Value} {left : S} {h : H} {acts : List (Step S)}
    (hp : Protocol p icp s o access args state hooks reply left h acts) :
    Asked (cutShort p.options.catchPanics acts) (acts.filterMap Step.hook?) := by
  cases hp with
  | refused hb => exact .cut _
  | burst hb => exact .cut _
  | escaped hb ht =>
    cases ht with
    | escaped hs hc hrun =>
      rw [hc]
      exact .cut _
  | @settled proceed _ _ ran left outcome answer hb ht ha =>
    obtain ⟨hhooks, hrefuses, -⟩ := ht.asks_nothing
    have hcut : cutShort p.options.catchPanics
        (.before (seen p s args state) (.ok proceed) :: ran ++
          [.after (seen p s args left) outcome answer]) = false := by
      have hc := ht.panics_captured
      simp only [cutShort, List.cons_append, List.any_cons, List.any_append, hrefuses]
      simpa [Step.refuses, Step.panics, Step.isBefore] using hc
    rw [hcut, List.filterMap_append, List.filterMap_cons, hhooks]
    exact .both (seen p s args state) left

/-- The target is left as the original leaves it when the hook before has said yes and the access
suffices, and as it was otherwise. -/
theorem Protocol.left_eq {reply : Reply Value} {left : S} {h : H} {acts : List (Step S)}
    (hp : Protocol p icp s o access args state hooks reply left h acts) :
    left = if access.suffices o.needs && acts.any Step.admits then (o.run state args).2
      else state := by
  cases hp with
  | refused hb => simp [Step.admits]
  | burst hb => simp [Step.admits]
  | escaped hb ht =>
    rw [List.any_cons, ht.asks_nothing.2.2, Bool.or_false]
    exact ht.left_eq
  | settled hb ht ha =>
    rw [List.any_append, List.any_cons, ht.asks_nothing.2.2, Bool.or_false]
    simpa [Step.admits] using ht.left_eq

/-! ## One call by index -/

/-- **The log of one call**: nothing, the hook before of a call cut short, or both hooks. -/
theorem Handling.asked {i : Nat} {ending : Ending H S}
    (h : Handling p icp access i args state hooks ending) :
    Asked (cutShort p.options.catchPanics ending.acts) (ending.acts.filterMap Step.hook?) := by
  cases h with
  | unknown he => simpa [Ending.acts, cutShort] using Asked.nothing
  | unroutable he hno => simpa [Ending.acts, cutShort] using Asked.nothing
  | @direct e o he ho hr =>
    cases hs : access.suffices o.needs with
    | false =>
      rw [call_of_not_suffices hs]
      simpa [Ending.acts, cutShort] using Asked.nothing
    | true =>
      rw [call_of_suffices hs]
      have hcut : cutShort p.options.catchPanics
          [Step.original state args (o.run state args).1 (o.run state args).2] = false := by
        simp [cutShort, Step.refuses, Step.isBefore]
      show Asked (cutShort _ [.original state args _ _]) _
      rw [hcut]
      exact .nothing
  | intercepted he ho hr => exact (intercept_protocol ..).asked

/-- **The target after one call**: the admitted original alone decides it. -/
theorem Handling.state_eq {i : Nat} {ending : Ending H S}
    (h : Handling p icp access i args state hooks ending) :
    ending.state =
      (p.admitted? access i ending.acts).elim state fun o => (o.run state args).2 := by
  unfold ProxyType.admitted?
  cases h with
  | unknown he => simp [he]
  | @unroutable e he hno =>
    rcases hno with hno | hno <;> simp [he, hno, Entry.mayRun, Route.isIntercept]
  | @direct e o he ho hr =>
    cases hs : access.suffices o.needs with
    | false => simp [call_of_not_suffices hs, he, ho, hs]
    | true => simp [call_of_suffices hs, he, ho, hs, hr, Entry.mayRun]
  | @intercepted e o k he ho hr =>
    have hl := (intercept_protocol p icp e.signature o access args state hooks).left_eq
    simp only [he, ho, hr, Option.bind_some, Entry.mayRun, Route.isIntercept]
    simp only [reduceCtorEq, decide_false, Bool.false_or, Bool.true_and]
    rw [hl]
    split <;> rfl

end Interpose
