import Interpose.Proofs.Cache.Memoisation

/-!
# What a purge removes

A purge looks at the cells only: it removes those that are empty and those whose type no reference
uses. What the cells hold is compared with the history of the cache: a cell holds the type that was
synthesized for its key since the last removal, and is empty if none was.

* `Happenings.Current` : the type that a key has by the history.
* `Tracks` : the cells hold the current types.

Results:
* `Usage.tracks_step`, `Usage.tracks_run`: every step keeps this, and so does every run.
* `Usage.mem_lost_purge`: the keys that a purge removes.
* `Usage.unknown_run`: a removed key stays without a cell until it is requested.
* **`Usage.purge_exact`**: what a purge removes, keeps, returns and leaves to later requests, after
  any run.
-/

namespace Interpose

variable {S : Type}

/-! ## The type of a key by the history -/

/-- The type was synthesized for the key, and the key was not removed since. -/
inductive Happenings.Current : Happenings S → Key → ProxyType S → Prop
  | made (r : Request S) (p : ProxyType S) (hs : Happenings S) :
    Current (.requested r true (.ok p) :: hs) r.key p
  | earlier {h : Happening S} {hs : Happenings S} {key : Key} {p : ProxyType S}
    (hkept : h ≠ .removed key) (hcurrent : Current hs key p) : Current (h :: hs) key p

namespace Happenings

variable {hs : Happenings S} {key : Key} {p : ProxyType S} {r : Request S}

theorem current_made {q : ProxyType S} : Current (.requested r true (.ok q) :: hs) key p ↔
    (key = r.key ∧ p = q) ∨ hs.Current key p := by
  constructor
  · rintro (_ | ⟨-, h⟩)
    · exact .inl ⟨rfl, rfl⟩
    · exact .inr h
  · rintro (⟨rfl, rfl⟩ | h)
    · exact .made r p hs
    · exact .earlier nofun h

theorem current_shared {result : Except ProxyError (ProxyType S)} :
    Current (.requested r false result :: hs) key p ↔ hs.Current key p := by
  constructor
  · rintro (_ | ⟨-, h⟩)
    exact h
  · exact .earlier nofun

theorem current_refused {attempted : Bool} {e : ProxyError} :
    Current (.requested r attempted (.error e) :: hs) key p ↔ hs.Current key p := by
  constructor
  · rintro (_ | ⟨-, h⟩)
    exact h
  · exact .earlier nofun

theorem current_removed (keys : List Key) :
    Current (keys.map .removed ++ hs) key p ↔ key ∉ keys ∧ hs.Current key p := by
  induction keys with
  | nil => simp
  | cons k rest ih =>
    rw [List.map_cons, List.cons_append, List.mem_cons, not_or, and_assoc, ← ih]
    constructor
    · rintro (_ | ⟨hkept, h⟩)
      exact ⟨fun hk => hkept (congrArg _ hk.symm), h⟩
    · rintro ⟨hk, h⟩
      exact .earlier (fun heq => hk (Happening.removed.inj heq).symm) h

theorem Current.made_of (h : hs.Current key p) : hs.Made key p := by
  induction h with
  | made r p hs => exact ⟨r, List.mem_cons_self, rfl⟩
  | earlier _ _ ih => exact ih.mono (List.subset_cons_self ..)

end Happenings

/-! ## The cells by the history -/

/-- The filled cells hold the current types, and a cell is empty only after a refusal. -/
structure Tracks (c : Cache S) (hs : Happenings S) : Prop where
  current : ∀ key p, c.find? key = some (.proxy p) ↔ hs.Current key p
  refused : ∀ key, c.cell? key = some none → ∃ r e, .requested r true (.error e) ∈ hs ∧ r.key = key

namespace Tracks

variable {c c' : Cache S} {hs : Happenings S} {r : Request S} {p : ProxyType S}

theorem empty : Tracks (.empty : Cache S) [] := ⟨fun _ _ => ⟨nofun, nofun⟩, nofun⟩

/-- An earlier refusal stays in the history. -/
theorem refused_mono (h : Tracks c hs) {hs' : Happenings S} (hsub : hs ⊆ hs') {key : Key}
    (hcell : c.cell? key = some none) : ∃ r e, .requested r true (.error e) ∈ hs' ∧ r.key = key :=
  let ⟨r, e, hmem, hkey⟩ := h.refused key hcell
  ⟨r, e, hsub hmem, hkey⟩

theorem shared (h : Tracks c hs) (r : Request S) (result : Except ProxyError (ProxyType S)) :
    Tracks c (.requested r false result :: hs) :=
  ⟨fun key p => (h.current key p).trans Happenings.current_shared.symm,
    fun _ => h.refused_mono (List.subset_cons_self ..)⟩

theorem made (h : Tracks c hs) (hnone : c.find? r.key = none) (p : ProxyType S) :
    Tracks ((c.reserve r.key).fill r.key (.proxy p)) (.requested r true (.ok p) :: hs) := by
  refine ⟨fun key q => ?_, fun key hcell => ?_⟩
  · rw [Cache.find?_fill_reserve, Happenings.current_made, ← h.current]
    by_cases hkey : key = r.key
    · -- nothing was current for the key, as its cell was empty
      subst hkey
      simp [hnone, eq_comm]
    · simp [hkey]
  · refine h.refused_mono (List.subset_cons_self ..) ?_
    rw [Cache.cell?_fill, Cache.cell?_reserve] at hcell
    by_cases hkey : key = r.key
    · subst hkey
      cases hold : c.cell? r.key <;> simp [hold] at hcell
    · cases hold : c.cell? key <;> simp [hold, hkey] at hcell
      rw [hcell]

theorem refuse (h : Tracks c hs) (r : Request S) (e : ProxyError) :
    Tracks (c.reserve r.key) (.requested r true (.error e) :: hs) := by
  refine ⟨fun key q => ?_, fun key hcell => ?_⟩
  · rw [Cache.find?_reserve, Happenings.current_refused]
    exact h.current key q
  · by_cases hkey : key = r.key
    · exact ⟨r, e, List.mem_cons_self, hkey.symm⟩
    · refine h.refused_mono (List.subset_cons_self ..) ?_
      rw [Cache.cell?_reserve, if_neg hkey, Option.or_none] at hcell
      exact hcell

/-- Cells go, and the others stay as they are. -/
theorem removed (h : Tracks c hs) (hc : ∀ key, c'.cell? key = none ∨ c'.cell? key = c.cell? key) :
    Tracks c' ((c.lost c').map .removed ++ hs) := by
  refine ⟨fun key p => ?_, fun key hcell => ?_⟩
  · rw [Happenings.current_removed, ← h.current, Cache.mem_lost, Cache.find?_eq_some_iff,
      Cache.find?_eq_some_iff]
    rcases hc key with hnone | hsame
    · rw [hnone]
      cases c.cell? key <;> simp
    · rw [hsame]
      cases c.cell? key <;> simp
  · refine h.refused_mono (List.subset_append_right ..) ?_
    rcases hc key with hnone | hsame
    · cases hnone.symm.trans hcell
    · exact hsame.symm.trans hcell

/-- The counts of the cache do not matter. -/
theorem recount (h : Tracks c hs) (hits syntheses failures : Nat) :
    Tracks ⟨c.cells, hits, syntheses, failures⟩ hs := ⟨h.current, h.refused⟩

end Tracks

/-! ## Every run -/

namespace Usage

variable {u : Usage S} {r : Request S} {key : Key} {p : ProxyType S}

/-- Every step keeps it. -/
theorem tracks_step (hu : u.Sound) (h : Tracks u.cache u.history) (act : Act S) :
    Tracks (u.step act).cache (u.step act).history := by
  cases act with
  | request r =>
    have hasked := hu.asked r
    show Tracks (u.ask r).cache (u.ask r).history
    generalize u.ask r = u' at hasked ⊢
    cases hasked with
    | shared hfound => exact (h.shared r _).recount ..
    | made hnone hp => exact (h.made hnone _).recount ..
    | refused hnone he => exact (h.refuse r _).recount ..
  | share i => exact h
  | drop i => exact h
  | purge => exact h.removed fun key => u.cache.cell?_purge_cases key hu.cache.nodup _
  | clear => exact h.removed fun _ => .inl rfl
  | elsewhere taken => exact h

theorem tracks_run : ∀ (acts : List (Act S)) {u : Usage S}, u.Sound → Tracks u.cache u.history →
    Tracks (u.run acts).cache (u.run acts).history
  | [], _, _, h => h
  | act :: acts, _, hu, h => tracks_run acts (hu.step act) (tracks_step hu h act)

/-- A key without a cell gets one only by a request for it. -/
theorem unknown_step (hu : u.Sound) (hnone : u.cache.cell? key = none) {act : Act S}
    (hact : ∀ r, act.request? = some r → r.key ≠ key) : (u.step act).cache.cell? key = none := by
  cases act with
  | request r =>
    have hasked := hu.asked r
    have hother : key ≠ r.key := (hact r rfl).symm
    show (u.ask r).cache.cell? key = none
    generalize u.ask r = u' at hasked ⊢
    cases hasked with
    | shared hfound => exact hnone
    | made hempty hp =>
      refine (Cache.cell?_fill ..).trans ?_
      rw [Cache.cell?_reserve, hnone, if_neg hother]
      rfl
    | refused hempty he =>
      refine (Cache.cell?_reserve ..).trans ?_
      rw [hnone, if_neg hother]
      rfl
  | share i => exact hnone
  | drop i => exact hnone
  | purge =>
    refine (u.cache.cell?_purge key hu.cache.nodup u.live).trans ?_
    rw [hnone]
    rfl
  | clear => rfl
  | elsewhere taken => exact hnone

theorem unknown_run : ∀ (acts : List (Act S)) {u : Usage S}, u.Sound →
    u.cache.cell? key = none → (∀ r ∈ acts.filterMap Act.request?, r.key ≠ key) →
    (u.run acts).cache.cell? key = none
  | [], _, _, hnone, _ => hnone
  | act :: acts, _, hu, hnone, hacts => by
    refine unknown_run acts (hu.step act) (unknown_step hu hnone fun r hr => ?_) fun r hr => ?_
    · exact hacts r (List.mem_filterMap.mpr ⟨act, List.mem_cons_self, hr⟩)
    · obtain ⟨other, hmem, hother⟩ := List.mem_filterMap.mp hr
      exact hacts r (List.mem_filterMap.mpr ⟨other, List.mem_cons_of_mem _ hmem, hother⟩)

/-! ## Purging -/

/-- A purge finds a type in use iff a reference uses it: types that were kept from before a clearing
have other numbers. -/
theorem inUse_iff (hu : u.Sound) (hmade : u.history.Made key p) :
    Cache.Stored.inUse u.live (.proxy p) = true ↔ ∃ x ∈ u.references, x.type = p := by
  obtain ⟨r, hr, hkey⟩ := hmade
  simp only [Cache.Stored.inUse, live, List.contains_iff_mem, List.mem_map]
  refine exists_congr fun x => and_congr_right fun hx => ⟨fun hserial => ?_, congrArg _⟩
  exact (hu.history.identified (hu.held x hx).1 ⟨r, true, hr, hkey⟩ hserial).2

/-- **The keys that a purge removes**: those without a current type, and those whose current type no
reference uses. -/
theorem mem_lost_purge (hu : u.Sound) (h : Tracks u.cache u.history) (key : Key) :
    key ∈ u.cache.lost (u.step .purge).cache ↔ u.history.requested key = true ∧
      ((∀ p, ¬ u.history.Current key p) ∨
        ∃ p, u.history.Current key p ∧ ∀ x ∈ u.references, x.type ≠ p) := by
  have hpurged : (u.step .purge).cache.cell? key =
      (u.cache.cell? key).filter fun content => content.any (Cache.Stored.inUse u.live) :=
    u.cache.cell?_purge key hu.cache.nodup u.live
  rw [Cache.mem_lost, hpurged, ← hu.cache.reserved]
  refine and_congr_right fun _ => ?_
  match hcell : u.cache.cell? key with
  | none => simp_all
  | some none =>
    have hnone (p : ProxyType S) : ¬ u.history.Current key p := by
      rw [← h.current, Cache.find?_eq_some_iff, hcell]
      simp
    exact iff_of_true rfl (.inl hnone)
  | some (some stored) =>
    have hfound := (u.cache.find?_eq_some_iff key).mpr hcell
    obtain ⟨p, rfl, hmade⟩ := hu.cache.filled hfound
    have hcurrent (q : ProxyType S) : u.history.Current key q ↔ q = p := by
      rw [← h.current, hfound, Option.some.injEq, Stored.proxy.injEq, eq_comm]
    have hunused : (∀ x ∈ u.references, x.type ≠ p) ↔
        ¬ Cache.Stored.inUse u.live (.proxy p) = true := by
      rw [inUse_iff hu hmade]
      simp
    simp only [hcurrent, forall_eq, false_or, exists_eq_left, hunused]
    cases hused : Cache.Stored.inUse u.live (Stored.proxy p) <;> simp [Option.filter, hused]

/-- Where types declare one surface each, a key that has no current type has never had one. -/
theorem never_made {declared : Tag → Surface S} (hu : u.Sound) (h : Tracks u.cache u.history)
    (hpast : ∀ r ∈ u.history.filterMap Happening.request?, r.surface = declared r.target)
    (hrequested : u.history.requested key = true) (hnone : ∀ p, ¬ u.history.Current key p)
    (p : ProxyType S) : ¬ u.history.Made key p := by
  rintro ⟨r, hr, rfl⟩
  have hempty : u.cache.cell? r.key = some none := by
    have hsome := (hu.cache.reserved r.key).trans hrequested
    obtain ⟨content, hcell⟩ := Option.isSome_iff_exists.mp hsome
    cases content with
    | none => exact hcell
    | some stored =>
      have hfound := (u.cache.find?_eq_some_iff r.key).mpr hcell
      obtain ⟨q, rfl, -⟩ := hu.cache.filled hfound
      exact absurd ((h.current r.key q).mp hfound) (hnone q)
  obtain ⟨r', e, hr', hkey⟩ := h.refused r.key hempty
  have hsurface : r'.surface = r.surface := by
    rw [hpast r' (List.mem_filterMap.mpr ⟨_, hr', rfl⟩),
      hpast r (List.mem_filterMap.mpr ⟨_, hr, rfl⟩)]
    exact congrArg (declared ·.target) hkey
  -- the two requests are one, which cannot both be refused and have given a type
  obtain rfl := Request.eq_of_key hkey hsurface
  obtain ⟨n, hn⟩ := hu.history.refused hr'
  have hok := (hu.history.generated hr).2
  rw [r'.generated_renumber n, hn] at hok
  cases hok

/-- **A request is answered afresh**: the surface is asked for, and the answer is what generating
gives, under a number that no type has had. It counts as a synthesis or as a failure. -/
structure Afresh (u : Usage S) (r : Request S) (a : Request.Answer S) : Prop where
  result : a.result = r.generated u.mint.next
  asked : a.mint.asked = r.target :: u.mint.asked
  other : ∀ p, a.result = .ok p → ∀ key q, u.history.Obtained key q → p.serial ≠ q.serial
  hits : a.cache.hits = u.cache.hits
  synthesis : ∀ p, a.result = .ok p →
    a.cache.syntheses = u.cache.syntheses + 1 ∧ a.cache.failures = u.cache.failures
  failure : ∀ e, a.result = .error e →
    a.cache.syntheses = u.cache.syntheses ∧ a.cache.failures = u.cache.failures + 1

/-- A request for a key without a filled cell is answered afresh. -/
theorem afresh_of_find? (hu : u.Sound) (hnone : u.cache.find? r.key = none) :
    u.Afresh r (r.proxyType u.cache u.mint) := by
  cases hgen : r.generated u.mint.next with
  | ok p =>
    rw [Request.proxyType_of_made hnone hgen]
    refine ⟨hgen.symm, rfl, ?_, Cache.hits_reserve .., ?_, fun e => nofun⟩
    · rintro _ ⟨⟩ key q hq
      obtain ⟨r', hr', -⟩ := hu.history.obtained hq
      have hbelow := (hu.history.generated hr').1
      have hserial := (Request.generated_eq_ok hgen).1
      omega
    · exact fun _ _ => ⟨rfl, Cache.failures_reserve ..⟩
  | error e =>
    rw [Request.proxyType_of_refused hnone hgen]
    exact ⟨hgen.symm, rfl, fun p => nofun, Cache.hits_reserve .., fun p => nofun,
      fun _ _ => ⟨Cache.syntheses_reserve .., rfl⟩⟩

/-- **What a purge does** to a cache in use. -/
structure Purged (u after : Usage S) : Prop where
  /-- It removes the keys for which no synthesis has succeeded since they were last removed, and
  those whose type no reference uses. -/
  removed : ∀ key, key ∈ u.cache.lost after.cache ↔ u.history.requested key = true ∧
    ((∀ p, ¬ u.history.Current key p) ∨
      ∃ p, u.history.Current key p ∧ ∀ x ∈ u.references, x.type ≠ p)
  /-- Where types declare one surface each, such a synthesis never succeeded at all. -/
  never : ∀ declared : Tag → Surface S,
    (∀ r ∈ u.history.filterMap Happening.request?, r.surface = declared r.target) →
    ∀ key, u.history.requested key = true →
      ((∀ p, ¬ u.history.Current key p) ↔ ∀ p, ¬ u.history.Made key p)
  /-- Every other key keeps its type, and the next request for it is a hit. -/
  kept : ∀ r : Request S, u.history.requested r.key = true → r.key ∉ u.cache.lost after.cache →
    ∃ p, u.history.Current r.key p ∧ u.cache.find? r.key = some (.proxy p) ∧
      r.proxyType after.cache after.mint =
        ⟨.ok p, { after.cache with hits := after.cache.hits + 1 }, after.mint,
          [.cacheHit r.target.name]⟩
  /-- It returns the number of keys that it removes. -/
  returned : (u.cache.purge u.live).1 = (u.cache.lost after.cache).length
  hits : after.cache.hits = u.cache.hits
  syntheses : after.cache.syntheses = u.cache.syntheses
  failures : after.cache.failures = u.cache.failures
  /-- Another purge removes nothing. -/
  repeated : after.cache.purge after.live = (0, after.cache, [])
  /-- Whatever else happens next, the first request for a removed key is answered afresh. -/
  afresh : ∀ (r : Request S) (acts : List (Act S)), r.key ∈ u.cache.lost after.cache →
    (∀ r' ∈ acts.filterMap Act.request?, r'.key ≠ r.key) →
    (after.run acts).Afresh r (r.proxyType (after.run acts).cache (after.run acts).mint)

/-- A key that a purge leaves keeps its type. -/
theorem kept_of_not_lost (hu : u.Sound) (h : Tracks u.cache u.history)
    (hrequested : u.history.requested key = true)
    (hkept : key ∉ u.cache.lost (u.step .purge).cache) :
    ∃ p, u.history.Current key p ∧ u.cache.find? key = some (.proxy p) ∧
      (u.step .purge).cache.find? key = some (.proxy p) := by
  have hsome := (hu.cache.reserved key).trans hrequested
  have hsame : (u.step .purge).cache.cell? key = u.cache.cell? key := by
    refine (u.cache.cell?_purge_cases key hu.cache.nodup u.live).resolve_left fun hnone => ?_
    exact hkept (Cache.mem_lost.mpr ⟨hsome, hnone⟩)
  obtain ⟨p, hcurrent⟩ : ∃ p, u.history.Current key p := by
    by_contra hnone
    exact hkept ((mem_lost_purge hu h key).mpr ⟨hrequested, .inl (not_exists.mp hnone)⟩)
  have hfound := (h.current key p).mpr hcurrent
  refine ⟨p, hcurrent, hfound, ?_⟩
  rw [Cache.find?, hsame]
  exact hfound

/-- **Purging is exact**, after any run over the cache. -/
theorem purge_exact (m : Mint) (acts : List (Act S)) :
    let u := (start m).run acts
    Purged u (u.step .purge) := by
  intro u
  have hu : u.Sound := Sound.run acts (Sound.start m)
  have h : Tracks u.cache u.history := tracks_run acts (Sound.start m) .empty
  have hpurged : (u.step .purge).Sound := hu.step .purge
  refine ⟨mem_lost_purge hu h, fun declared hpast key hrequested => ?_,
    fun r hrequested hkept => ?_, ?_, rfl, rfl, rfl, ?_, fun r acts hlost hacts => ?_⟩
  · exact ⟨never_made hu h hpast hrequested, fun hnone p hp => hnone p hp.made_of⟩
  · obtain ⟨p, hcurrent, hfound, hafter⟩ := kept_of_not_lost hu h hrequested hkept
    have hsuits := hu.history.suits hcurrent.made_of
    exact ⟨p, hcurrent, hfound, Request.proxyType_of_found hafter (Request.proxy?_proxy hsuits) _⟩
  · have hsub : (u.step .purge).cache.keys ⊆ u.cache.keys :=
      (List.filter_sublist.map Prod.fst).subset
    have hsize := Cache.size_eq_lost hu.cache.nodup hpurged.cache.nodup hsub
    have hcount : (u.cache.purge u.live).1 = u.cache.size - (u.step .purge).cache.size := rfl
    omega
  · exact u.cache.purge_purge u.live
  · have hnone := unknown_run acts hpurged (Cache.mem_lost.mp hlost).2 hacts
    refine afresh_of_find? (Sound.run acts hpurged) ?_
    rw [Cache.find?, hnone]
    rfl

/-- After a clearing, a type that is generated again and dropped is removed, although the old type
of its key is still used; so is the key of the sealed shelf. The shelf's own type stays, and the
removed one is generated a third time. -/
theorem purge_exact_shelf :
    let r : Request String := ⟨shelf, ⟨0, "tests::Noop"⟩, .standard⟩
    let unused : Request String := ⟨shelf, ⟨0, "tests::Noop"⟩, ⟨Filter.all.skipName "clear", true⟩⟩
    let refused : Request String := ⟨sealedShelf, ⟨0, "tests::Noop"⟩, .standard⟩
    let acts : List (Act String) :=
      [.request unused, .clear, .request unused, .drop 0, .request r, .request refused]
    let u := (start ⟨0, []⟩).run acts
    let after := u.step .purge
    let later := after.run [.request r, .purge]
    u.cache.lost after.cache = [unused.key, refused.key] ∧ (u.cache.purge u.live).1 = 2 ∧
    (∃ p, u.cache.find? r.key = some (.proxy p) ∧
      (r.proxyType after.cache after.mint).result = .ok p) ∧
    later.Afresh unused (unused.proxyType later.cache later.mint) ∧
    (unused.proxyType later.cache later.mint).result.toOption.map (·.serial) = some 3 := by
  intro r unused refused acts u after later
  have hpurged : Purged u after := purge_exact ⟨0, []⟩ acts
  have hlost : u.cache.lost after.cache = [unused.key, refused.key] := by decide +kernel
  refine ⟨hlost, ?_, ?_, ?_, by decide +kernel⟩
  · rw [hpurged.returned, hlost]
    rfl
  · have hkept : r.key ∉ u.cache.lost after.cache := by
      rw [hlost]
      decide +kernel
    obtain ⟨p, -, hfound, hhit⟩ := hpurged.kept r (by decide +kernel) hkept
    exact ⟨p, hfound, congrArg Request.Answer.result hhit⟩
  · refine hpurged.afresh unused [.request r, .purge] ?_ ?_
    · rw [hlost]
      exact List.mem_cons_self
    · simp only [List.filterMap_cons, List.filterMap_nil, Act.request?, List.mem_singleton]
      rintro _ rfl
      decide +kernel

end Usage

end Interpose
