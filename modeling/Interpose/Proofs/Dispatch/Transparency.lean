import Interpose.Completion
import Interpose.Instance
import Interpose.Proofs.Dispatch.Protocol

/-!
# Transparency of the pass-through interceptors

Typed code that calls a proxy whose interceptor passes everything through cannot tell it from the
bare target, and so cannot tell two proxies apart that differ in their filter or in whether panics
are captured.

The argument is a simulation over sequences of typed calls. On one side a call runs the original
and is finished; on the other it goes through the hooks, a panic may be captured and counts as a
failure, the outcome is resumed, and the value is checked against the declared result. One call is
compared in two steps: what comes out of the protocol is the original's reply, up to a captured
panic (`Protocol.passed`), and finishing does not see the difference (`Finish.observe_captured`).

Results:
* `entry_original`: where no two methods share a name, every entry that can be called runs its own
  method's code, whatever the filter.
* `Instance.call_passed`: one call.
* **`transparent_of_passThrough`**: whole sequences of calls.
-/

namespace Interpose

variable {H S : Type}

/-! ## Typed use of a target and of a proxy -/

/-- A typed call by declaration index. -/
structure TypedUse where
  access : Access
  index : Nat
  args : List Value
  finish : Finish

/-- What typed code sees of a call, and the state that the call leaves the target in. -/
structure Sight (S : Type) where
  finish : Finish
  seen : finish.Seen
  left : S

/-- What typed code sees of a call that ends with the reply. -/
def TypedUse.sight (c : TypedUse) (reply : Reply Value) (left : S) : Sight S :=
  ⟨c.finish, c.finish.observe reply, left⟩

/-- The code of the declared method at the index. -/
def Surface.original? (d : Surface S) (index : Nat) : Option (Original S) :=
  d.methods[index]?.bind (·.original)

/-- Typed calls of the bare code, in order; one that has no code ends them. -/
def Surface.use (d : Surface S) : List TypedUse → S → List (Sight S)
  | [], _ => []
  | c :: rest, state =>
    match d.original? c.index with
    | none => []
    | some o =>
      let (reply, left) := o.run state c.args
      c.sight reply left :: d.use rest left

/-- Typed calls of a proxy, in order. -/
def Instance.use (icp : Interceptor H S) : List TypedUse → Instance S → H → List (Sight S)
  | [], _, _ => []
  | c :: rest, i, hooks =>
    let ending := i.call icp c.access c.index c.args hooks
    c.sight ending.reply ending.state ::
      use icp rest { i with state := ending.state } ending.hooks

/-- The method can be called through proxies of the type, and with the access at hand. -/
def TypedUse.Routed (c : TypedUse) (p : ProxyType S) : Prop :=
  ∃ e o, p.entries[c.index]? = some e ∧ e.route ≠ .unavailable ∧ e.original = some o ∧
    c.access.suffices o.needs = true

/-- Every result of the declared code is accepted by its declared type. -/
def Surface.ReturnsDeclared (d : Surface S) : Prop :=
  ∀ m ∈ d.methods, ∀ o, m.original = some o → ∀ state args v,
    (o.run state args).1 = .ok v → m.signature.returns.accepts v = true

/-! ## The protocol with a pass-through interceptor -/

theorem Interceptor.hooks_none : (.hooks none none : Interceptor H S) = .passThrough := rfl

/-- **What a pass-through interceptor makes of a call**: the original's reply, with a panic captured
if the type captures panics, and the state that the original leaves. -/
theorem Protocol.passed {p : ProxyType S} {s : Signature} {o : Original S} {access : Access}
    {args : List Value} {state left : S} {hooks h : H} {reply : Reply Value}
    {acts : List (Step S)} (hs : access.suffices o.needs = true)
    (hret : ∀ v, (o.run state args).1 = .ok v → s.returns.accepts v = true)
    (hp : Protocol p .passThrough s o access args state hooks reply left h acts) :
    reply = (if p.options.catchPanics then (o.run state args).1.captured
      else (o.run state args).1) ∧ left = (o.run state args).2 := by
  cases hp with
  | refused hb => cases hb
  | burst hb => cases hb
  | escaped hb ht =>
    cases hb
    cases ht with
    | escaped _ hc hrun =>
      rw [hrun, hc]
      exact ⟨rfl, rfl⟩
  | settled hb ht ha =>
    cases hb
    cases ha
    cases ht with
    | outOfReach hno =>
      rw [hs] at hno
      cases hno
    | @returned _ v left hrun =>
      rw [hrun] at hret ⊢
      have hv : checkReturn s v = .ok v := if_pos (hret v rfl)
      refine ⟨?_, rfl⟩
      show checkReturn s v = _
      rw [hv]
      split <;> rfl
    | failed _ hrun =>
      rw [hrun]
      refine ⟨?_, rfl⟩
      split <;> rfl
    | captured _ hc hrun =>
      rw [hrun, hc]
      exact ⟨rfl, rfl⟩

/-- Finishing a call does not see whether a panic was captured on the way. -/
theorem Finish.observe_captured (f : Finish) (r : Reply Value) :
    f.observe r.captured = f.observe r := by
  cases r with
  | ok v => rfl
  | failed e => rfl
  | panicked payload =>
    unfold Finish.observe Finish.complete Reply.captured
    cases f.declares <;> rfl

/-! ## One call -/

variable {d : Surface S} {f : Filter} {t : Target S} {p : ProxyType S}

/-- Where no two methods share a name, the first slot of a method's name is the method's own. -/
theorem slot_method (hp : Generated d f t p) (hnames : (d.methods.map (·.signature.name)).Nodup)
    {i k : Nat} {m : Method S} {s : Slot S} (hm : d.methods[i]? = some m)
    (hk : t.slotOf? m.signature.name = some k) (hs : t.slots[k]? = some s) : s.method = m := by
  obtain ⟨s', hs', hname⟩ := slotOf?_spec hk
  rw [hs] at hs'
  cases hs'
  obtain ⟨rfl, -⟩ := settled_of_synthesize hp
  have hms := (mem_select.mp (List.mem_of_getElem? hs)).1
  have hindex : s.index = i := by
    have hlt := (List.getElem?_eq_some_iff.mp hms).1
    refine (List.getElem?_inj (by rw [List.length_map]; exact hlt) hnames).mp ?_
    rw [List.getElem?_map, List.getElem?_map, hms, hm]
    exact congrArg some hname
  rw [hindex, hm] at hms
  exact (Option.some.inj hms).symm

/-- **Where no two methods share a name, every entry runs its own method's code**, whatever the
filter. -/
theorem entry_original (hp : Generated d f t p)
    (hnames : (d.methods.map (·.signature.name)).Nodup) {i : Nat} {m : Method S}
    (hm : d.methods[i]? = some m) :
    ∃ route, p.entries[i]? = some ⟨m.signature, m.original, route⟩ := by
  rcases entry_cases hp hm with ⟨-, k, s, hk, hs, -, he⟩ | ⟨-, he⟩
  · rw [slot_method hp hnames hm hk hs] at he
    exact ⟨_, he⟩
  · exact ⟨_, he⟩

/-- **One typed call**, through the proxy and on the bare code: typed code sees the same, and the
target is left the same. -/
theorem Instance.call_passed (hp : Generated d f t p)
    (hnames : (d.methods.map (·.signature.name)).Nodup) (hret : d.ReturnsDeclared) {c : TypedUse}
    (hc : c.Routed p) (state : S) (hooks : H) :
    ∃ o, d.original? c.index = some o ∧
      let ending := Instance.call ⟨p, state⟩ .passThrough c.access c.index c.args hooks
      c.finish.observe ending.reply = c.finish.observe (o.run state c.args).1 ∧
        ending.state = (o.run state c.args).2 := by
  obtain ⟨e, o, he, hr, ho, hs⟩ := hc
  obtain ⟨m, hm⟩ := method_of_entry hp he
  obtain ⟨route, hown⟩ := entry_original hp hnames hm
  rw [he] at hown
  cases hown
  refine ⟨o, by rw [Surface.original?, hm]; exact ho, ?_⟩
  rw [Instance.call_eq_dispatch]
  have hcase := dispatch_handling p .passThrough c.access c.index c.args state hooks
  generalize dispatch p .passThrough c.access c.index c.args state hooks = ending at hcase ⊢
  cases hcase with
  | unknown hno =>
    rw [he] at hno
    cases hno
  | unroutable he' hno =>
    rw [he] at he'
    cases he'
    rcases hno with hno | hno
    · exact absurd hno hr
    · rw [ho] at hno
      cases hno
  | direct he' ho' hr' =>
    rw [he] at he'
    cases he'
    cases ho.symm.trans ho'
    rw [call_of_suffices hs]
    exact ⟨rfl, rfl⟩
  | intercepted he' ho' hr' =>
    rw [he] at he'
    cases he'
    cases ho.symm.trans ho'
    obtain ⟨hreply, hleft⟩ := (intercept_protocol ..).passed hs
      (hret m (List.mem_of_getElem? hm) o ho state c.args)
    refine ⟨?_, hleft⟩
    rw [hreply]
    split
    · exact Finish.observe_captured ..
    · rfl

/-! ## Sequences of calls -/

/-- The simulation, by induction on the calls. -/
theorem Instance.use_passThrough (hp : Generated d f t p)
    (hnames : (d.methods.map (·.signature.name)).Nodup) (hret : d.ReturnsDeclared) :
    ∀ (calls : List TypedUse), (∀ c ∈ calls, c.Routed p) → ∀ (state : S) (hooks : H),
      Instance.use .passThrough calls ⟨p, state⟩ hooks = d.use calls state
  | [], _, _, _ => rfl
  | c :: rest, hcalls, state, hooks => by
    obtain ⟨o, ho, hseen, hleft⟩ :=
      Instance.call_passed hp hnames hret (hcalls c List.mem_cons_self) state hooks
    have hrest := use_passThrough hp hnames hret rest
      fun c' hc' => hcalls c' (List.mem_cons_of_mem c hc')
    simp only [Instance.use, Surface.use, ho, TypedUse.sight, hseen, hleft, hrest]

/-- Which methods can be called, and with which access, does not depend on the filter. -/
theorem TypedUse.Routed.of_generated {f' : Filter} {t' : Target S} {p' : ProxyType S}
    (hp : Generated d f t p) (hp' : Generated d f' t' p')
    (hnames : (d.methods.map (·.signature.name)).Nodup) {c : TypedUse} (hc : c.Routed p) :
    c.Routed p' := by
  obtain ⟨e, o, he, hr, ho, hs⟩ := hc
  obtain ⟨m, hm⟩ := method_of_entry hp he
  obtain ⟨route, hown⟩ := entry_original hp hnames hm
  obtain ⟨route', hown'⟩ := entry_original hp' hnames hm
  rw [he] at hown
  cases hown
  exact ⟨_, o, hown', (callable_iff hp' hm hown').mpr ((callable_iff hp hm he).mp hr), ho, hs⟩

/-- **Pass-through proxies are transparent to typed code**: whatever the filter and the options,
every sequence of typed calls is seen as on the bare code, call by call, and leaves the target in
the same states. So two proxies of one surface cannot be told apart. -/
theorem transparent_of_passThrough {icp : Interceptor H S} (hp : Generated d f t p)
    (hnames : (d.methods.map (·.signature.name)).Nodup) (hret : d.ReturnsDeclared)
    (hicp : icp = .passThrough ∨ icp = .hooks none none) (calls : List TypedUse)
    (hcalls : ∀ c ∈ calls, c.Routed p) (state : S) (hooks : H) :
    Instance.use icp calls ⟨p, state⟩ hooks = d.use calls state ∧
      ∀ f' t' p', Generated d f' t' p' →
        Instance.use icp calls ⟨p', state⟩ hooks = Instance.use icp calls ⟨p, state⟩ hooks := by
  obtain rfl : icp = .passThrough := by
    rcases hicp with h | h
    · exact h
    · rw [h, Interceptor.hooks_none]
  have huse := Instance.use_passThrough hp hnames hret calls hcalls state hooks
  refine ⟨huse, fun f' t' p' hp' => ?_⟩
  rw [huse]
  exact Instance.use_passThrough hp' hnames hret calls
    (fun c hc => (hcalls c hc).of_generated hp hp' hnames) state hooks

/-- The shelf without the second declaration of its name. -/
def singleShelf : Surface String := { shelf with methods := shelf.methods.eraseIdx 2 }

theorem singleShelf_returnsDeclared : singleShelf.ReturnsDeclared := by
  intro m hm o ho state args v hv
  simp only [singleShelf, shelf, List.eraseIdx, List.mem_cons, List.not_mem_nil, or_false] at hm
  rcases hm with rfl | rfl | rfl | rfl | rfl <;> cases ho <;> cases hv <;> rfl

/-- Reading the name, clearing the shelf and dropping it, with one method filtered. -/
theorem transparent_singleShelf : ∃ t p,
    Generated singleShelf (Filter.all.skipName "clear") t p ∧
      let calls : List TypedUse :=
        [⟨.shared, 0, [], ⟨.string, none, "name"⟩⟩, ⟨.exclusive, 1, [], ⟨.string, none, "clear"⟩⟩,
         ⟨.exclusive, 4, [], ⟨.string, none, "drop"⟩⟩]
      Instance.use (.hooks none none : Interceptor Unit String) calls ⟨p, "atlas"⟩ () =
        singleShelf.use calls "atlas" := by
  have hp : Generated singleShelf (Filter.all.skipName "clear") _ _ :=
    ⟨rfl, ⟨0, "tests::Noop"⟩, .standard, 0, rfl⟩
  refine ⟨_, _, hp, (transparent_of_passThrough hp (by decide) singleShelf_returnsDeclared
    (.inr rfl) _ ?_ "atlas" ()).1⟩
  simp only [List.forall_mem_cons]
  exact ⟨⟨_, _, rfl, nofun, rfl, rfl⟩, ⟨_, _, rfl, nofun, rfl, rfl⟩, ⟨_, _, rfl, nofun, rfl, rfl⟩,
    nofun⟩

end Interpose
