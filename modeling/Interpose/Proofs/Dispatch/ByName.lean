import Interpose.Proofs.Dispatch.Effect

/-!
# Names and the calls that they stand for

A generated type can be asked about a name: for the signature that calls by the name run, for a
route, and whether the name is intercepted. Signature and calls go by the first method of the name
that can be called, the route by the first one that is declared. These are one method unless a
method that cannot be called stands before one of its name that can.

Results:
* `Protocol.consults`, `Handling.consults_iff`: a call by index asks the hook before iff its row is
  intercepted.
* `ProxyType.find?_answers`: where the first method of a name can be called, it is the one that
  calls by the name run.
* `not_intercepted`: calls that do not ask the hook before, whatever the first method is.
* **`firstAnswers_agreement`**: the names for which route and signature agree, and what calls by
  these names do.
-/

namespace Interpose

variable {H S : Type}

/-! ## Calls that ask the hook before -/

/-- Was the hook before asked? -/
def Ending.consults (e : Ending H S) : Bool := e.acts.any Step.isBefore

variable {p : ProxyType S} {icp : Interceptor H S} {s : Signature} {o : Original S}
  {access : Access} {args : List Value} {state : S} {hooks : H}

/-- Every way through the protocol begins with the hook before. -/
theorem Protocol.consults {reply : Reply Value} {left : S} {h : H} {acts : List (Step S)}
    (hp : Protocol p icp s o access args state hooks reply left h acts) :
    acts.any Step.isBefore = true := by
  cases hp <;> rfl

/-- **A call by index asks the hook before iff its row is intercepted** and has code. -/
theorem Handling.consults_iff {i : Nat} {ending : Ending H S}
    (h : Handling p icp access i args state hooks ending) :
    ending.consults = true ↔ ∃ e, p.entries[i]? = some e ∧ e.route.isIntercept = true ∧
      e.original.isSome = true := by
  unfold Ending.consults
  cases h with
  | unknown he => simp [Ending.acts, he]
  | @unroutable e he hno =>
    rcases hno with hno | hno <;> simp [Ending.acts, he, hno, Route.isIntercept]
  | @direct e o he ho hr =>
    have hran : ((o.call access e.signature.name state args).2.2.filter Step.isAct).any
        Step.isBefore = false := by
      cases hs : access.suffices o.needs with
      | false => rw [call_of_not_suffices hs]; rfl
      | true => rw [call_of_suffices hs]; rfl
    simp [Ending.acts, hran, he, hr, Route.isIntercept]
  | @intercepted e o k he ho hr =>
    have hp := (intercept_protocol p icp e.signature o access args state hooks).consults
    simp [hp, he, ho, hr, Route.isIntercept]

/-! ## The first method of a name -/

/-- If any method of the name can be called, the first one that is declared can. -/
def ProxyType.FirstAnswers (p : ProxyType S) (name : String) : Prop :=
  ∀ first, p.entries.find? (fun e => e.signature.name = name) = some first →
    ∀ e ∈ p.entries, e.answers name = true → first.answers name = true

variable {d : Surface S} {f : Filter} {t : Target S} {name : String}

theorem Entry.answers_iff (name : String) (e : Entry S) :
    e.answers name = true ↔ e.signature.name = name ∧ e.route ≠ .unavailable := by
  simp [Entry.answers]

/-- The first method of the name, if it can be called, is the first that can be called. -/
theorem ProxyType.find?_answers {first : Entry S}
    (hfirst : p.entries.find? (fun e => e.signature.name = name) = some first)
    (ha : first.answers name = true) : p.entries.find? (Entry.answers name) = some first := by
  obtain ⟨-, before, after, hsplit, hbefore⟩ := List.find?_eq_some_iff_append.mp hfirst
  refine List.find?_eq_some_iff_append.mpr ⟨ha, before, after, hsplit, fun e he => ?_⟩
  have hname := hbefore e he
  simp only [Bool.not_eq_eq_eq_not, Bool.not_true, decide_eq_false_iff_not] at hname
  simp [Entry.answers, hname]

/-- A method that can be called by the name shows that some method of the name is declared. -/
theorem ProxyType.exists_first {e : Entry S} (he : e ∈ p.entries) (ha : e.answers name = true) :
    ∃ first, p.entries.find? (fun e => e.signature.name = name) = some first := by
  apply Option.isSome_iff_exists.mp
  rw [List.find?_isSome]
  exact ⟨e, he, by simpa using ((Entry.answers_iff name e).mp ha).1⟩

/-- A name has a signature iff some method can be called by it. -/
theorem method?_isSome_iff (hp : Generated d f t p) (name : String) :
    (p.method? name).isSome = true ↔ ∃ e ∈ p.entries, e.answers name = true := by
  rw [method?_eq_find? hp, Option.isSome_map, List.find?_isSome]

theorem routeOf?_eq_some {r : Route} : p.routeOf? name = some r ↔
    ∃ first, p.entries.find? (fun e => e.signature.name = name) = some first ∧ first.route = r := by
  unfold ProxyType.routeOf?
  rw [Option.map_eq_some_iff]

/-- What calls by a name come to: the row of the first method that can be called by it. -/
theorem entry_of_indexOf? (hp : Generated d f t p) {i : Nat} (hi : p.indexOf? name = some i) :
    ∃ e, p.entries[i]? = some e ∧ p.entries.find? (Entry.answers name) = some e := by
  rw [indexOf?_eq_findIdx? hp] at hi
  obtain ⟨hlt, -⟩ := List.findIdx?_eq_some_iff_getElem.mp hi
  refine ⟨p.entries[i], List.getElem?_eq_getElem hlt, ?_⟩
  rw [List.find?_eq_bind_findIdx?_getElem?, hi, Option.bind_some, List.getElem?_eq_getElem hlt]

/-- A call by name with arguments that its signature accepts is a call by index. -/
theorem invoke_of_indexOf? {i : Nat} (hi : p.indexOf? name = some i)
    (haccepts : ∀ s, p.method? name = some s → s.acceptsArgs args = true) :
    Instance.invoke ⟨p, state⟩ icp name args hooks =
      .ok (dispatch p icp .exclusive i args state hooks) := by
  have hresolve : p.resolve name args = .ok i := by
    unfold ProxyType.resolve
    simp only [hi]
    cases hm : p.method? name with
    | none => rfl
    | some s => exact if_pos (haccepts s hm)
  unfold Instance.invoke
  simp only [hresolve]
  rfl

/-- A name that stands for no method is refused. -/
theorem invoke_of_indexOf?_eq_none (hi : p.indexOf? name = none) :
    Instance.invoke ⟨p, state⟩ icp name args hooks = .error (.noSuchMethod p.target name) := by
  unfold Instance.invoke ProxyType.resolve
  simp only [hi]
  rfl

/-- A call by name that runs at all is a call by index. -/
theorem indexOf?_of_invoke {ending : Ending H S}
    (h : Instance.invoke ⟨p, state⟩ icp name args hooks = .ok ending) :
    ∃ i, p.indexOf? name = some i ∧ ending = dispatch p icp .exclusive i args state hooks := by
  unfold Instance.invoke ProxyType.resolve at h
  cases hi : p.indexOf? name with
  | none =>
    simp only [hi] at h
    cases h
  | some i =>
    refine ⟨i, rfl, ?_⟩
    simp only [hi] at h
    split at h
    · exact (Except.ok.inj h).symm
    · split at h
      · exact (Except.ok.inj h).symm
      · cases h

/-! ## The view of a name and calls by it -/

/-- What is said of a name agrees with what calls by it do. -/
structure NameAgreement (H : Type) (p : ProxyType S) (name : String) : Prop where
  /-- A name has a signature iff it has a route on which it can be called. -/
  signature_iff : (p.method? name).isSome = true ↔
    ∃ r, p.routeOf? name = some r ∧ r ≠ .unavailable
  /-- The route of a name is that of the row that calls by the name run. -/
  route_of_call : ∀ i, p.indexOf? name = some i →
    ∃ e, p.entries[i]? = some e ∧ e.signature.name = name ∧ p.routeOf? name = some e.route
  /-- A name is intercepted iff a call by it, with arguments that its signature accepts, asks the
  hook before. -/
  intercepted_iff : ∀ (icp : Interceptor H S) (args : List Value) (state : S) (hooks : H),
    (∀ s, p.method? name = some s → s.acceptsArgs args = true) →
      (p.isIntercepted name = true ↔ ∃ ending,
        Instance.invoke ⟨p, state⟩ icp name args hooks = .ok ending ∧ ending.consults = true)

/-- The first method of a name answers iff having a signature and having a route on which the name
can be called come to the same. -/
theorem firstAnswers_iff (hp : Generated d f t p) (name : String) :
    p.FirstAnswers name ↔ ((p.method? name).isSome = true ↔
      ∃ r, p.routeOf? name = some r ∧ r ≠ .unavailable) := by
  rw [method?_isSome_iff hp]
  constructor
  · intro hfirst
    constructor
    · rintro ⟨e, he, ha⟩
      obtain ⟨first, hf⟩ := ProxyType.exists_first he ha
      have hr := ((Entry.answers_iff name first).mp (hfirst first hf e he ha)).2
      exact ⟨first.route, routeOf?_eq_some.mpr ⟨first, hf, rfl⟩, hr⟩
    · rintro ⟨r, hr, hcan⟩
      obtain ⟨first, hf, rfl⟩ := routeOf?_eq_some.mp hr
      have hname : first.signature.name = name := by simpa using List.find?_some hf
      exact ⟨first, List.mem_of_find?_eq_some hf, (Entry.answers_iff name first).mpr ⟨hname, hcan⟩⟩
  · intro hiff first hf e he ha
    obtain ⟨r, hr, hcan⟩ := hiff.mp ⟨e, he, ha⟩
    obtain ⟨first', hf', rfl⟩ := routeOf?_eq_some.mp hr
    obtain rfl : first = first' := Option.some.inj (hf.symm.trans hf')
    have hname : first.signature.name = name := by simpa using List.find?_some hf
    exact (Entry.answers_iff name first).mpr ⟨hname, hcan⟩

/-- Where the first method of a name answers, calls by the name run it. -/
theorem ProxyType.FirstAnswers.entry (hfirst : p.FirstAnswers name) (hp : Generated d f t p)
    {i : Nat} (hi : p.indexOf? name = some i) :
    ∃ e, p.entries[i]? = some e ∧ e.answers name = true ∧ p.routeOf? name = some e.route := by
  obtain ⟨e, he, hfound⟩ := entry_of_indexOf? hp hi
  have ha := List.find?_some hfound
  have hmem := List.mem_of_find?_eq_some hfound
  obtain ⟨first, hf⟩ := ProxyType.exists_first hmem ha
  have hfa := ProxyType.find?_answers hf (hfirst first hf e hmem ha)
  obtain rfl : e = first := Option.some.inj (hfound.symm.trans hfa)
  exact ⟨e, he, ha, routeOf?_eq_some.mpr ⟨e, hf, rfl⟩⟩

/-- A name whose calls run a row that is not intercepted does not count as intercepted, and such
calls do not ask the hook before. -/
theorem not_intercepted (hp : Generated d f t p) {i : Nat} {e : Entry S}
    (hi : p.indexOf? name = some i) (he : p.entries[i]? = some e)
    (hroute : e.route.isIntercept = false) :
    p.isIntercepted name = false ∧
      ∀ (icp : Interceptor H S) (args : List Value) (state : S) (hooks : H) (ending : Ending H S),
        Instance.invoke ⟨p, state⟩ icp name args hooks = .ok ending →
          ending.consults = false := by
  constructor
  · by_contra hintercepted
    unfold ProxyType.isIntercepted at hintercepted
    split at hintercepted
    next r hr =>
      -- an intercepted first method of the name answers, so calls by the name run it
      have hr' : r.isIntercept = true := Bool.not_eq_false _ ▸ hintercepted
      obtain ⟨first, hf, rfl⟩ := routeOf?_eq_some.mp hr
      have hname : first.signature.name = name := by simpa using List.find?_some hf
      have hcan : first.route ≠ .unavailable := by
        intro hun
        rw [hun] at hr'
        cases hr'
      have hfound := ProxyType.find?_answers hf ((Entry.answers_iff name first).mpr ⟨hname, hcan⟩)
      obtain ⟨e', he', hfound'⟩ := entry_of_indexOf? hp hi
      cases he.symm.trans he'
      cases hfound.symm.trans hfound'
      rw [hroute] at hr'
      cases hr'
    next => exact hintercepted rfl
  · intro icp args state hooks ending hinvoke
    obtain ⟨i', hi', rfl⟩ := indexOf?_of_invoke hinvoke
    cases hi.symm.trans hi'
    rw [← Bool.not_eq_true, (dispatch_handling ..).consults_iff]
    rintro ⟨e', he', hr, -⟩
    cases he.symm.trans he'
    rw [hroute] at hr
    cases hr

/-- **The view of a name and calls by it.** A name has a signature iff some method of the name is
routed to. Route and signature of a name agree exactly when the first method of the name answers;
then the route is that of the row that calls by the name run, and the name is intercepted iff such
calls ask the hook before. Whatever the first method is, a name whose calls run a row that is not
intercepted is not intercepted. -/
theorem firstAnswers_agreement (hp : Generated d f t p) (name : String) :
    ((p.method? name).isSome = true ↔
      ∃ e ∈ p.entries, e.signature.name = name ∧ e.route ≠ .unavailable) ∧
    (p.FirstAnswers name ↔ ((p.method? name).isSome = true ↔
      ∃ r, p.routeOf? name = some r ∧ r ≠ .unavailable)) ∧
    (p.FirstAnswers name → NameAgreement H p name) ∧
    ∀ i e, p.indexOf? name = some i → p.entries[i]? = some e → e.route.isIntercept = false →
      p.isIntercepted name = false ∧
        ∀ (icp : Interceptor H S) (args : List Value) (state : S) (hooks : H)
          (ending : Ending H S), Instance.invoke ⟨p, state⟩ icp name args hooks = .ok ending →
            ending.consults = false := by
  refine ⟨?_, firstAnswers_iff hp name,
    fun hfirst => ⟨(firstAnswers_iff hp name).mp hfirst, ?_, ?_⟩,
    fun i e hi he hroute => not_intercepted hp hi he hroute⟩
  · simp only [method?_isSome_iff hp, Entry.answers_iff]
  · intro i hi
    obtain ⟨e, he, ha, hr⟩ := hfirst.entry hp hi
    exact ⟨e, he, ((Entry.answers_iff name e).mp ha).1, hr⟩
  · intro icp args state hooks haccepts
    unfold ProxyType.isIntercepted
    cases hi : p.indexOf? name with
    | none =>
      -- without a method to call there is no route on which the name could be intercepted
      have hno : ¬ ∃ r, p.routeOf? name = some r ∧ r ≠ .unavailable := by
        rw [← (firstAnswers_iff hp name).mp hfirst, ProxyType.method?, hi]
        exact Bool.false_ne_true
      simp only [invoke_of_indexOf?_eq_none hi]
      cases hr : p.routeOf? name with
      | none => simp
      | some r =>
        have hun : r = .unavailable := not_not.mp fun hne => hno ⟨r, hr, hne⟩
        simp [hun, Route.isIntercept]
    | some i =>
      obtain ⟨e, he, ha, hr⟩ := hfirst.entry hp hi
      obtain ⟨o, ho⟩ := original_of_route hp he ((Entry.answers_iff name e).mp ha).2
      simp only [hr, invoke_of_indexOf? hi haccepts, Except.ok.injEq, exists_eq_left']
      rw [(dispatch_handling ..).consults_iff]
      simp [he, ho]

/-- The shelf's name is declared twice and its first declaration answers; its capacity is declared
once and cannot be called. -/
theorem firstAnswers_shelf : ∃ t p, Generated shelf .all t p ∧ p.FirstAnswers "name" ∧
    NameAgreement Unit p "name" := by
  have hp : Generated shelf .all _ _ := ⟨rfl, ⟨0, "tests::Noop"⟩, .standard, 0, rfl⟩
  have hfirst : ProxyType.FirstAnswers _ "name" :=
    (firstAnswers_iff hp "name").mpr ⟨fun _ => ⟨.intercept 0, rfl, nofun⟩, fun _ => rfl⟩
  exact ⟨_, _, hp, hfirst, (firstAnswers_agreement hp "name").2.2.1 hfirst⟩

/-- A shelf that declares its name without an instance before it declares the method. -/
def labelledShelf : Surface String :=
  { shelf with methods := ⟨.reading "name" .static, none⟩ :: shelf.methods }

/-- On the labelled shelf the name has a signature but no route on which it could be called; calls
by it run a row with another route, and ask the hook before although the name counts as not
intercepted. -/
theorem labelledShelf_disagrees : ∃ t p, Generated labelledShelf .all t p ∧
    (p.method? "name").isSome = true ∧ p.routeOf? "name" = some .unavailable ∧
    p.indexOf? "name" = some 1 ∧ p.entries[1]?.map (·.route) = some (.intercept 0) ∧
    p.isIntercepted "name" = false ∧
    (∃ ending, Instance.invoke ⟨p, "atlas"⟩ (.passThrough : Interceptor Unit String) "name" [] () =
      .ok ending ∧ ending.consults = true) ∧ ¬ NameAgreement Unit p "name" := by
  have hp : Generated labelledShelf .all _ _ := ⟨rfl, ⟨0, "tests::Noop"⟩, .standard, 0, rfl⟩
  refine ⟨_, _, hp, rfl, rfl, rfl, rfl, rfl, ⟨_, rfl, rfl⟩, fun h => ?_⟩
  obtain ⟨r, hr, hcan⟩ := h.signature_iff.mp rfl
  exact hcan (Option.some.inj hr).symm

end Interpose
