import Interpose.Proofs.Cache.History

/-!
# Runs over one cache

A cache is asked for generated types, which handles and instances then use; references are shared
and dropped; unused types are purged and the cache is cleared, in any order. What happened to every
key is kept as a history, and what the cache says about a key is compared with it.

* Two references are to one object exactly when the generated types have one number: no two
  syntheses have the same (`Report.numbered`).
* A purge knows the types in use from the references that are left.
* Other caches may take numbers at any time.

Results:
* `Usage.Sound.step`: what every step keeps true of the history, the cells and the references.
* **`Usage.run_accounted`**: identity, counts and contents of the cache after any run.
-/

namespace Interpose

variable {S : Type}

/-! ## The system -/

/-- A generated type that a handle or an instance uses. -/
structure Reference (S : Type) where
  /-- The key of the request that gave the type. -/
  key : Key
  /-- How often the cache had been cleared before that request. -/
  clears : Nat
  type : ProxyType S

/-- What is done with a cache. -/
inductive Act (S : Type) where
  | request (r : Request S)
  /-- Another handle or instance uses the type of the reference at the position. -/
  | share (position : Nat)
  /-- The reference at the position is dropped. -/
  | drop (position : Nat)
  | purge
  | clear
  /-- Syntheses for other caches take numbers. -/
  | elsewhere (taken : Nat)

/-- The request, if it is one. -/
def Act.request? : Act S → Option (Request S)
  | request r => some r
  | _ => none

/-- A cache in use. -/
structure Usage (S : Type) where
  cache : Cache S
  mint : Mint
  references : List (Reference S)
  /-- How often the cache was cleared. -/
  clears : Nat
  history : Happenings S

namespace Usage

/-- An unused cache, with any numbers taken elsewhere. -/
def start (m : Mint) : Usage S := ⟨.empty, m, [], 0, []⟩

/-- The numbers of the generated types in use. -/
def live (u : Usage S) : List Nat := u.references.map (·.type.serial)

/-- After a request that gave a type, which a new reference uses. -/
def give (u : Usage S) (r : Request S) (attempted : Bool) (p : ProxyType S) (c : Cache S)
    (m : Mint) : Usage S :=
  ⟨c, m, ⟨r.key, u.clears, p⟩ :: u.references, u.clears,
    .requested r attempted (.ok p) :: u.history⟩

/-- After a request that was refused. -/
def refuse (u : Usage S) (r : Request S) (attempted : Bool) (e : ProxyError) (c : Cache S)
    (m : Mint) : Usage S :=
  ⟨c, m, u.references, u.clears, .requested r attempted (.error e) :: u.history⟩

/-- Asks the cache for a generated type. -/
def ask (u : Usage S) (r : Request S) : Usage S :=
  let a := r.proxyType u.cache u.mint
  let attempted := decide (a.mint.asked ≠ u.mint.asked)
  match a.result with
  | .ok p => u.give r attempted p a.cache a.mint
  | .error e => u.refuse r attempted e a.cache a.mint

/-- Goes on with less of the cache. -/
def reduce (u : Usage S) (c : Cache S) (clears : Nat) : Usage S :=
  { u with cache := c, clears, history := (u.cache.lost c).map .removed ++ u.history }

/-- Does one thing. -/
def step (u : Usage S) : Act S → Usage S
  | .request r => u.ask r
  | .share i => { u with references := u.references[i]?.toList ++ u.references }
  | .drop i => { u with references := u.references.eraseIdx i }
  | .purge => u.reduce (u.cache.purge u.live).2.1 u.clears
  | .clear => u.reduce u.cache.clear (u.clears + 1)
  | .elsewhere taken => { u with mint := ⟨u.mint.next + taken, u.mint.asked⟩ }

/-- Does one thing after the other. -/
def run (u : Usage S) (acts : List (Act S)) : Usage S := acts.foldl step u

variable {u : Usage S} {r : Request S} {p : ProxyType S} {c : Cache S}

/-! ## One request -/

/-- What asking can do when the cells hold generated types that fit their keys: share the type of
the cell, synthesize one into it, or be refused. -/
inductive Asked (u : Usage S) (r : Request S) : Usage S → Prop
  | shared {p : ProxyType S} (hfound : u.cache.find? r.key = some (.proxy p)) :
    Asked u r (u.give r false p { u.cache with hits := u.cache.hits + 1 } u.mint)
  | made {p : ProxyType S} (hnone : u.cache.find? r.key = none)
    (hp : r.generated u.mint.next = .ok p) :
    Asked u r (u.give r true p
      { (u.cache.reserve r.key).fill r.key (.proxy p) with syntheses := u.cache.syntheses + 1 }
      ⟨u.mint.next + 1, r.target :: u.mint.asked⟩)
  | refused {e : ProxyError} (hnone : u.cache.find? r.key = none)
    (he : r.generated u.mint.next = .error e) :
    Asked u r (u.refuse r true e { u.cache.reserve r.key with failures := u.cache.failures + 1 }
      ⟨u.mint.next, r.target :: u.mint.asked⟩)

theorem cache_ask (u : Usage S) (r : Request S) :
    (u.ask r).cache = (r.proxyType u.cache u.mint).cache := by
  unfold ask
  dsimp only
  split <;> rfl

theorem asked_of_fits (hfits : ∀ stored, u.cache.find? r.key = some stored →
    ∃ p, stored = .proxy p ∧ r.Suits p) : u.Asked r (u.ask r) := by
  have hserved := r.served u.cache u.mint
  unfold ask
  revert hserved
  generalize r.proxyType u.cache u.mint = a
  intro hserved
  cases hserved with
  | hit hfound hp =>
    obtain ⟨p, rfl, hsuits⟩ := hfits _ hfound
    obtain rfl := Option.some.inj ((Request.proxy?_proxy hsuits).symm.trans hp)
    simpa using Asked.shared hfound
  | misshapen hfound hp =>
    obtain ⟨p, rfl, hsuits⟩ := hfits _ hfound
    rw [Request.proxy?_proxy hsuits] at hp
    cases hp
  | made hnone hp => simpa using Asked.made hnone hp
  | failed hnone he => simpa using Asked.refused hnone he

/-! ## What stays true -/

/-- What every run keeps true. -/
structure Sound (u : Usage S) : Prop where
  history : u.history.Consistent u.mint.next
  cache : Recorded u.cache u.history
  held : ∀ x ∈ u.references, u.history.Obtained x.key x.type ∧ x.clears ≤ u.clears
  /-- The cell of a key holds the type in use, unless the cache was cleared. -/
  current : ∀ x ∈ u.references, x.clears = u.clears → u.cache.find? x.key = some (.proxy x.type)
  same : ∀ x ∈ u.references, ∀ y ∈ u.references, x.key = y.key → x.clears = y.clears →
    x.type = y.type

namespace Sound

theorem start (m : Mint) : (Usage.start m : Usage S).Sound where
  history := .nil _
  cache := .empty
  held := fun _ hx => absurd hx List.not_mem_nil
  current := fun _ hx => absurd hx List.not_mem_nil
  same := fun _ hx => absurd hx List.not_mem_nil

/-! ### A request -/

theorem held_give (h : u.Sound) (attempted : Bool) (c : Cache S) (m : Mint) :
    ∀ x ∈ (u.give r attempted p c m).references,
      (u.give r attempted p c m).history.Obtained x.key x.type ∧ x.clears ≤ u.clears := by
  intro x hx
  rcases List.mem_cons.mp hx with rfl | hx
  · exact ⟨⟨r, attempted, List.mem_cons_self, rfl⟩, le_refl _⟩
  · obtain ⟨hobtained, hclears⟩ := h.held x hx
    exact ⟨hobtained.mono (List.subset_cons_self ..), hclears⟩

/-- The new reference agrees with all others if it agrees with those of the key since the last
clearing. -/
theorem same_give (h : u.Sound) {attempted : Bool} {c : Cache S} {m : Mint}
    (hagree : ∀ x ∈ u.references, x.key = r.key → x.clears = u.clears → x.type = p) :
    ∀ x ∈ (u.give r attempted p c m).references, ∀ y ∈ (u.give r attempted p c m).references,
      x.key = y.key → x.clears = y.clears → x.type = y.type := by
  intro x hx y hy hkey hclears
  rcases List.mem_cons.mp hx with rfl | hx <;> rcases List.mem_cons.mp hy with rfl | hy
  · rfl
  · exact (hagree y hy hkey.symm hclears.symm).symm
  · exact hagree x hx hkey hclears
  · exact h.same x hx y hy hkey hclears

/-- The counts of the cache do not matter. -/
theorem recount (h : u.Sound) (hits syntheses failures : Nat) :
    Sound { u with cache := ⟨u.cache.cells, hits, syntheses, failures⟩ } :=
  ⟨h.history, h.cache.recount .., h.held, h.current, h.same⟩

theorem shared (h : u.Sound) (hfound : u.cache.find? r.key = some (.proxy p)) :
    (u.give r false p u.cache u.mint).Sound := by
  refine ⟨?_, h.cache.shared hfound, h.held_give _ _ _, ?_, h.same_give ?_⟩
  · obtain ⟨q, hq, hmade⟩ := h.cache.filled hfound
    obtain rfl := Stored.proxy.inj hq
    exact h.history.shared hmade
  · intro x hx hclears
    rcases List.mem_cons.mp hx with rfl | hx
    · exact hfound
    · exact h.current x hx hclears
  · intro x hx hkey hclears
    have hx' := h.current x hx hclears
    rw [hkey, hfound] at hx'
    exact (Stored.proxy.inj (Option.some.inj hx')).symm

theorem made (h : u.Sound) (hnone : u.cache.find? r.key = none)
    (hp : r.generated u.mint.next = .ok p) (asked : List Tag) :
    (u.give r true p ((u.cache.reserve r.key).fill r.key (.proxy p))
      ⟨u.mint.next + 1, asked⟩).Sound := by
  -- no reference since the last clearing is to a type of the key, as the cell is empty
  have hfresh : ∀ x ∈ u.references, x.key = r.key → x.clears ≠ u.clears := by
    intro x hx hkey hclears
    have hx' := h.current x hx hclears
    rw [hkey, hnone] at hx'
    cases hx'
  refine ⟨h.history.made hp, h.cache.made r p, h.held_give _ _ _, ?_,
    h.same_give fun x hx hkey hclears => absurd hclears (hfresh x hx hkey)⟩
  intro x hx hclears
  refine (u.cache.find?_fill_reserve r.key x.key (.proxy p)).trans ?_
  rcases List.mem_cons.mp hx with rfl | hx
  · rw [if_pos rfl]
  · rw [if_neg fun hkey => hfresh x hx hkey hclears]
    exact h.current x hx hclears

theorem refuse (h : u.Sound) {e : ProxyError} (hnone : u.cache.find? r.key = none)
    (he : r.generated u.mint.next = .error e) (asked : List Tag) :
    (u.refuse r true e (u.cache.reserve r.key) ⟨u.mint.next, asked⟩).Sound := by
  refine ⟨h.history.refuse he, h.cache.refuse hnone e, ?_, ?_, h.same⟩
  · intro x hx
    obtain ⟨hobtained, hclears⟩ := h.held x hx
    exact ⟨hobtained.mono (List.subset_cons_self ..), hclears⟩
  · intro x hx hclears
    exact (u.cache.find?_reserve r.key x.key).trans (h.current x hx hclears)

theorem asked (h : u.Sound) (r : Request S) : u.Asked r (u.ask r) :=
  asked_of_fits fun _ hstored =>
    let ⟨p, hp, hmade⟩ := h.cache.filled hstored
    ⟨p, hp, h.history.suits hmade⟩

theorem ask (h : u.Sound) (r : Request S) : (u.ask r).Sound := by
  have hasked := h.asked r
  revert hasked
  generalize u.ask r = u'
  intro hasked
  cases hasked with
  | shared hfound => exact (h.shared hfound).recount ..
  | made hnone hp => exact (h.made hnone hp _).recount ..
  | refused hnone he => exact (h.refuse hnone he _).recount ..

/-- A type that a request gave was generated for it. -/
theorem suits_of_result (h : u.Sound) (hp : (r.proxyType u.cache u.mint).result = .ok p) :
    r.Suits p := by
  obtain ⟨attempted, hask⟩ : ∃ attempted, u.ask r = u.give r attempted p
      (r.proxyType u.cache u.mint).cache (r.proxyType u.cache u.mint).mint := by
    unfold Usage.ask
    simp only [hp]
    exact ⟨_, rfl⟩
  have hask' := (h.ask r).history
  rw [hask] at hask'
  exact hask'.suits (hask'.obtained ⟨r, attempted, List.mem_cons_self, rfl⟩)

/-! ### Purging, clearing and references -/

/-- Cells may go, and others stay as they are, if those stay that hold types in use since the last
clearing. -/
theorem reduce (h : u.Sound) (hnodup : c.keys.Nodup)
    (hc : ∀ key, c.cell? key = none ∨ c.cell? key = u.cache.cell? key) {n : Nat}
    (hn : u.clears ≤ n)
    (hkept : ∀ x ∈ u.references, x.clears = n → c.cell? x.key = u.cache.cell? x.key) :
    (u.reduce c n).Sound := by
  refine ⟨h.history.removed _, h.cache.removed hnodup hc, ?_, ?_, h.same⟩
  · intro x hx
    obtain ⟨hobtained, hclears⟩ := h.held x hx
    exact ⟨hobtained.mono (List.subset_append_right ..), hclears.trans hn⟩
  · intro x hx hclears
    have hle := (h.held x hx).2
    have hcurrent := h.current x hx (by change x.clears = n at hclears; omega)
    show Option.join (c.cell? x.key) = _
    rw [hkept x hx hclears]
    exact hcurrent

theorem purge (h : u.Sound) : (u.reduce (u.cache.purge u.live).2.1 u.clears).Sound := by
  refine h.reduce (Cache.nodup_purge _ h.cache.nodup _)
    (fun key => u.cache.cell?_purge_cases key h.cache.nodup _) (le_refl _) fun x hx hclears => ?_
  have hlive : x.type.serial ∈ u.live := List.mem_map.mpr ⟨x, hx, rfl⟩
  rw [u.cache.cell?_purge x.key h.cache.nodup,
    (u.cache.find?_eq_some_iff x.key).mp (h.current x hx hclears)]
  simp [Cache.Stored.inUse, hlive]

theorem clear (h : u.Sound) : (u.reduce u.cache.clear (u.clears + 1)).Sound :=
  h.reduce (c := u.cache.clear) List.nodup_nil (fun _ => .inl rfl) (Nat.le_succ _)
    fun x hx hclears => absurd (h.held x hx).2 (by omega)

/-- References may be copied and dropped. -/
theorem rerefer (h : u.Sound) {references : List (Reference S)} (hsub : references ⊆ u.references) :
    Sound { u with references } :=
  ⟨h.history, h.cache, fun x hx => h.held x (hsub hx), fun x hx => h.current x (hsub hx),
    fun x hx y hy => h.same x (hsub hx) y (hsub hy)⟩

/-- Numbers may be taken elsewhere. -/
theorem elsewhere (h : u.Sound) (taken : Nat) :
    Sound { u with mint := ⟨u.mint.next + taken, u.mint.asked⟩ } :=
  ⟨h.history.mono (Nat.le_add_right ..), h.cache, h.held, h.current, h.same⟩

/-- Every step keeps it. -/
theorem step (h : u.Sound) (act : Act S) : (u.step act).Sound := by
  cases act with
  | request r => exact h.ask r
  | share i =>
    refine h.rerefer (List.append_subset.mpr ⟨fun x hx => ?_, List.Subset.refl _⟩)
    exact List.mem_of_getElem? (Option.mem_toList.mp hx)
  | drop i => exact h.rerefer (List.eraseIdx_subset ..)
  | purge => exact h.purge
  | clear => exact h.clear
  | elsewhere taken => exact h.elsewhere taken

theorem run : ∀ (acts : List (Act S)) {u : Usage S}, u.Sound → (u.run acts).Sound
  | [], _, h => h
  | act :: acts, _, h => run acts (h.step act)

end Sound

/-! ## What a run adds up to -/

/-- The requests that a cache has counted. -/
def tally (u : Usage S) : Nat := u.cache.hits + u.cache.syntheses + u.cache.failures

theorem requests_step (u : Usage S) (act : Act S) :
    (u.step act).history.filterMap Happening.request? =
      act.request?.toList ++ u.history.filterMap Happening.request? := by
  have hreduce (c : Cache S) (n : Nat) : (u.reduce c n).history.filterMap Happening.request? =
      u.history.filterMap Happening.request? := by
    unfold reduce
    rw [List.filterMap_append, List.filterMap_map]
    simp [Function.comp_def, Happening.request?]
  cases act with
  | request r =>
    show (u.ask r).history.filterMap _ = _
    unfold ask
    dsimp only
    split <;> rfl
  | share i => rfl
  | drop i => rfl
  | purge => exact hreduce ..
  | clear => exact hreduce ..
  | elsewhere taken => rfl

theorem requests_run : ∀ (acts : List (Act S)) (u : Usage S),
    (u.run acts).history.filterMap Happening.request? =
      (acts.filterMap Act.request?).reverse ++ u.history.filterMap Happening.request?
  | [], u => rfl
  | act :: acts, u => by
    show ((u.step act).run acts).history.filterMap _ = _
    rw [requests_run acts, requests_step, List.filterMap_cons]
    cases act.request? <;> simp

theorem Sound.tally_step (h : u.Sound) (act : Act S) :
    (u.step act).tally = u.tally + act.request?.toList.length := by
  cases act with
  | request r =>
    have hasked := h.asked r
    show (u.ask r).tally = u.tally + 1
    revert hasked
    generalize u.ask r = u'
    intro hasked
    cases hasked with
    | shared _ =>
      simp only [tally, give]
      omega
    | made _ _ =>
      simp only [tally, give, Cache.fill, Cache.hits_reserve, Cache.failures_reserve]
      omega
    | refused _ _ =>
      simp only [tally, Usage.refuse, Cache.hits_reserve, Cache.syntheses_reserve]
      omega
  | share i => rfl
  | drop i => rfl
  | purge => rfl
  | clear => rfl
  | elsewhere taken => rfl

theorem Sound.tally_run : ∀ (acts : List (Act S)) {u : Usage S}, u.Sound →
    (u.run acts).tally = u.tally + (acts.filterMap Act.request?).length
  | [], _, _ => rfl
  | act :: acts, u, h => by
    show ((u.step act).run acts).tally = _
    rw [tally_run acts (h.step act), h.tally_step, List.filterMap_cons]
    cases act.request? with
    | none => rfl
    | some r =>
      simp only [Option.toList_some, List.length_cons, List.length_nil]
      omega

/-- **What is true of a cache in use**, of the requests that were made. -/
structure Report (u : Usage S) (requests : List (Request S)) : Prop where
  /-- Every request was answered, and nothing else. -/
  answered : u.history.filterMap Happening.request? = requests.reverse
  /-- Every synthesis has a number of its own. -/
  numbered : u.history.Pairwise Happening.Differ
  /-- What is in use was obtained for its key. -/
  held : ∀ x ∈ u.references, u.history.Obtained x.key x.type
  /-- Two types in use are the same if their keys are equal and the cache was not cleared between
  the requests that gave them. -/
  same : ∀ x ∈ u.references, ∀ y ∈ u.references, x.key = y.key → x.clears = y.clears →
    x.type = y.type
  /-- Types that were ever obtained for different keys are not the same. -/
  apart : ∀ key key' p p', u.history.Obtained key p → u.history.Obtained key' p' → key ≠ key' →
    p.serial ≠ p'.serial
  /-- Every request counts once. -/
  counted : u.cache.hits + u.cache.syntheses + u.cache.failures = requests.length
  /-- The number of entries is the number of cells. -/
  entries : u.cache.stats.entries = u.cache.size
  /-- The cells are those of the keys that were requested and not removed since. -/
  size : u.cache.size = u.history.requestedKeys.length
  /-- A key is in the cache if the last synthesis for it since its last removal succeeded. -/
  contains : ∀ key, u.cache.contains key = true ↔ u.history.succeeded key = true
  /-- No request finds something else than a type that fits its key. -/
  shaped : ∀ (r : Request S) attempted (r' : Request S),
    .requested r attempted (.error r'.unexpectedShape) ∉ u.history

/-- **Every run over one cache can be reported so**, however requests, references, purges and
clearings follow each other. -/
theorem run_accounted (m : Mint) (acts : List (Act S)) :
    ((start m).run acts).Report (acts.filterMap Act.request?) := by
  have h : ((start m : Usage S).run acts).Sound := Sound.run acts (Sound.start m)
  have hrequests := requests_run acts (start m)
  have htally := (Sound.start m).tally_run acts
  refine ⟨?_, h.history.numbered, fun x hx => (h.held x hx).1, h.same, ?_, ?_, rfl, h.cache.size,
    ?_, ?_⟩
  · exact hrequests.trans (List.append_nil _)
  · intro key key' p p' hp hp' hkey hserial
    exact hkey (h.history.identified hp hp' hserial).1
  · exact htally.trans (Nat.zero_add _)
  · intro key
    rw [h.cache.contains]
  · intro r attempted r' hmem
    obtain ⟨n, hn⟩ := h.history.refused hmem
    exact Request.generated_ne_unexpectedShape hn

end Usage

end Interpose
