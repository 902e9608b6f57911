import Interpose.Proofs.Cache.Usage
import Interpose.Proofs.Synthesis.RouteTable

/-!
# What a cache remembers

A type always declares the same surface. Then a cache gives what describing and synthesizing anew
would give: the same errors, and the same type except for its number and the name that shows it.
The key of a request holds all that generating depends on, and a request that is refused leaves
nothing behind.

Results:
* `Usage.request_of_found`: what a cell holds was generated by the request that finds it.
* **`Usage.answer_faithful`**: every request after any run is answered faithfully.
-/

namespace Interpose

variable {S : Type}

/-- The two types differ in nothing but number and name, and are for the request. -/
structure Agrees (r : Request S) (p fresh : ProxyType S) : Prop where
  suits : r.Suits p
  target : p.target = fresh.target
  constructors : p.constructors = fresh.constructors
  entries : p.entries = fresh.entries
  slotCount : p.slotCount = fresh.slotCount
  /-- Names are looked up alike. -/
  index : ∀ name, p.indexOf? name = fresh.indexOf? name
  /-- So is everything else that the number and the name do not take part in. -/
  rest : p = { fresh with serial := p.serial, name := p.name }

/-- The result of a request against that of generating anew. -/
structure Faithful (r : Request S) (result fresh : Except ProxyError (ProxyType S)) : Prop where
  /-- The errors are the same. -/
  refused : ∀ e, result = .error e ↔ fresh = .error e
  /-- A type that is given agrees with the one that would be generated. -/
  given : ∀ p, result = .ok p → ∃ q, fresh = .ok q ∧ Agrees r p q
  /-- Where one would be generated, one is given. -/
  complete : ∀ q, fresh = .ok q → ∃ p, result = .ok p

namespace Request

variable {r : Request S} {n k : Nat} {p : ProxyType S}

/-- Generating with another number is faithful. -/
theorem faithful_generated (r : Request S) (n k : Nat) :
    Faithful r (r.generated n) (r.generated k) := by
  rw [r.generated_renumber n k]
  cases hn : r.generated n with
  | error e =>
    refine ⟨fun e' => Iff.rfl, ?_, ?_⟩
    · intro p hp
      cases hp
    · intro q hq
      cases hq
  | ok p =>
    refine ⟨fun e' => ⟨nofun, nofun⟩, ?_, fun _ _ => ⟨p, rfl⟩⟩
    intro p' hp'
    obtain rfl := Except.ok.inj hp'
    exact ⟨_, rfl, (generated_eq_ok hn).2, rfl, rfl, rfl, rfl, fun _ => rfl, rfl⟩

/-- Requests for one key are one request, if their types declare one surface. -/
theorem eq_of_key {r r' : Request S} (hkey : r.key = r'.key) (hsurface : r.surface = r'.surface) :
    r = r' := by
  obtain ⟨-, hinterceptor, hoptions⟩ := Key.mk.inj hkey
  cases r
  cases r'
  simp only at hsurface hinterceptor hoptions
  subst hsurface hinterceptor hoptions
  rfl

end Request

namespace Usage

variable {u : Usage S} {r : Request S} {p : ProxyType S} {declared : Tag → Surface S}

/-- What the cell of a key holds was generated by the request that finds it. -/
theorem request_of_found (h : u.Sound)
    (hpast : ∀ r ∈ u.history.filterMap Happening.request?, r.surface = declared r.target)
    (hr : r.surface = declared r.target) {stored : Stored S}
    (hfound : u.cache.find? r.key = some stored) :
    ∃ p, stored = .proxy p ∧ r.generated p.serial = .ok p := by
  obtain ⟨p, rfl, r', hmem, hkey⟩ := h.cache.filled hfound
  have hr' : r'.surface = declared r'.target :=
    hpast r' (List.mem_filterMap.mpr ⟨_, hmem, rfl⟩)
  have htarget : r'.target = r.target := congrArg Key.target hkey
  obtain rfl := Request.eq_of_key hkey (by rw [hr', hr, htarget])
  exact ⟨p, rfl, (h.history.generated hmem).2⟩

/-- **Every request is answered faithfully**, after any run over the cache and whatever number a
fresh synthesis would take. -/
theorem answer_faithful (m : Mint) (acts : List (Act S)) (r : Request S)
    (hacts : ∀ r ∈ acts.filterMap Act.request?, r.surface = declared r.target)
    (hr : r.surface = declared r.target) (n : Nat) :
    let u := (start m).run acts
    Faithful r (r.proxyType u.cache u.mint).result (r.generated n) := by
  intro u
  have h : u.Sound := Sound.run acts (Sound.start m)
  have hpast : ∀ r ∈ u.history.filterMap Happening.request?, r.surface = declared r.target := by
    intro r hmem
    rw [requests_run, List.mem_append, List.mem_reverse] at hmem
    rcases hmem with hmem | hmem
    · exact hacts r hmem
    · cases hmem
  have hserved := r.served u.cache u.mint
  revert hserved
  generalize r.proxyType u.cache u.mint = a
  intro hserved
  cases hserved with
  | hit hfound hp =>
    obtain ⟨p, rfl, hgen⟩ := request_of_found h hpast hr hfound
    rw [Request.proxy?_proxy (Request.generated_eq_ok hgen).2] at hp
    obtain rfl := Option.some.inj hp
    rw [← hgen]
    exact r.faithful_generated ..
  | misshapen hfound hp =>
    obtain ⟨p, rfl, hgen⟩ := request_of_found h hpast hr hfound
    rw [Request.proxy?_proxy (Request.generated_eq_ok hgen).2] at hp
    cases hp
  | made hnone hp =>
    rw [← hp]
    exact r.faithful_generated ..
  | failed hnone he =>
    rw [← he]
    exact r.faithful_generated ..

/-- A shelf that cannot be extended. -/
def sealedShelf : Surface String :=
  { shelf with type := ⟨1, "tests::SealedShelf"⟩, isSealed := true }

/-- The type that a shelf's second request shares after a purge has number 0, and agrees with one
of number 5; the sealed shelf is refused again. -/
theorem answer_faithful_shelf :
    let declared : Tag → Surface String := fun t => if t.key = 1 then sealedShelf else shelf
    let r : Request String := ⟨shelf, ⟨0, "tests::Noop"⟩, .standard⟩
    let refused : Request String := ⟨sealedShelf, ⟨0, "tests::Noop"⟩, .standard⟩
    let acts : List (Act String) :=
      [.request refused, .request r, .share 0, .drop 0, .purge, .request refused]
    let u := (start ⟨0, []⟩).run acts
    (∀ r ∈ acts.filterMap Act.request?, r.surface = declared r.target) ∧
    r.surface = declared r.target ∧ refused.surface = declared refused.target ∧
    Faithful r (r.proxyType u.cache u.mint).result (r.generated 5) ∧
    Faithful refused (refused.proxyType u.cache u.mint).result (refused.generated 5) ∧
    (r.proxyType u.cache u.mint).result.toOption.map (·.serial) = some 0 ∧
    (refused.proxyType u.cache u.mint).result.toOption.map (·.serial) = none := by
  intro declared r refused acts u
  have hacts : ∀ r ∈ acts.filterMap Act.request?, r.surface = declared r.target := by
    intro r hmem
    simp only [acts, List.filterMap_cons, List.filterMap_nil, Act.request?, List.mem_cons,
      List.not_mem_nil, or_false] at hmem
    rcases hmem with rfl | rfl | rfl <;> rfl
  exact ⟨hacts, rfl, rfl, answer_faithful ⟨0, []⟩ acts r hacts rfl 5,
    answer_faithful ⟨0, []⟩ acts refused hacts rfl 5, by decide +kernel, by decide +kernel⟩

end Usage

end Interpose
