import Interpose.Proofs.Cache.Answer
import Mathlib.Data.List.Dedup
import Mathlib.Data.List.Pairwise
import Mathlib.Data.List.Perm.Lattice

/-!
# What happened to the keys of a cache

Requests are answered, with or without an attempt to generate the type, and cells are removed. The
history of one cache keeps this, latest first; what it says about a key is what happened to the key
last.

Results:
* `Happenings.Consistent`: what the types in a history have to do with their requests and with each
  other; every number is given once.
* `Recorded`: a cache has the cells that its history says, with one lemma per thing that can happen.
-/

namespace Interpose

variable {S : Type}

/-! ## Histories -/

/-- What happened to a key. -/
inductive Happening (S : Type) where
  /-- A request was answered; `attempted` says if the type was described for it. -/
  | requested (r : Request S) (attempted : Bool) (result : Except ProxyError (ProxyType S))
  /-- The cell was removed. -/
  | removed (key : Key)

namespace Happening

/-- The key that it happened to. -/
def key : Happening S → Key
  | requested r _ _ => r.key
  | removed key => key

/-- The request, if it is one. -/
def request? : Happening S → Option (Request S)
  | requested r _ _ => some r
  | removed _ => none

/-- The generated type, if one was synthesized. -/
def made? : Happening S → Option (ProxyType S)
  | requested _ true (.ok p) => some p
  | _ => none

theorem made?_eq_some {h : Happening S} {p : ProxyType S} (hp : h.made? = some p) :
    ∃ r, h = .requested r true (.ok p) := by
  unfold made? at hp
  split at hp
  · rename_i r q
    obtain rfl := Option.some.inj hp
    exact ⟨r, rfl⟩
  · cases hp

/-- Is it a synthesis, successful or not, or a removal? -/
def settles : Happening S → Bool
  | requested _ attempted _ => attempted
  | removed _ => true

/-- Types that were synthesized in both have different numbers. -/
def Differ (h h' : Happening S) : Prop :=
  ∀ p p', h.made? = some p → h'.made? = some p' → p.serial ≠ p'.serial

instance : Std.Symm (Differ (S := S)) where
  symm _ _ h p p' hp hp' := (h p' p hp' hp).symm

end Happening

/-- What happened to the keys of a cache, latest first. -/
abbrev Happenings (S : Type) := List (Happening S)

namespace Happenings

/-- The latest of the things that `q` picks out among what happened to the key. -/
def latest? (hs : Happenings S) (q : Happening S → Bool) (key : Key) : Option (Happening S) :=
  hs.find? fun h => decide (h.key = key) && q h

/-- Was the key requested, and not removed since? -/
def requested (hs : Happenings S) (key : Key) : Bool :=
  (hs.latest? (fun _ => true) key).any (·.request?.isSome)

/-- Did the last synthesis for the key succeed, if there was one since the last removal? -/
def succeeded (hs : Happenings S) (key : Key) : Bool :=
  (hs.latest? Happening.settles key).any (·.made?.isSome)

/-- The keys that were requested and not removed since, without repetition. -/
def requestedKeys (hs : Happenings S) : List Key := (hs.map Happening.key).dedup.filter hs.requested

/-- A request for the key gave the type. -/
def Obtained (hs : Happenings S) (key : Key) (p : ProxyType S) : Prop :=
  ∃ r attempted, .requested r attempted (.ok p) ∈ hs ∧ r.key = key

/-- The type was synthesized for the key. -/
def Made (hs : Happenings S) (key : Key) (p : ProxyType S) : Prop :=
  ∃ r, .requested r true (.ok p) ∈ hs ∧ r.key = key

end Happenings

/-! ## A history grows -/

namespace Happenings

variable {hs : Happenings S} {key : Key} {p p' : ProxyType S}

theorem latest?_cons (h : Happening S) (q : Happening S → Bool) :
    latest? (h :: hs) q key = if h.key = key ∧ q h = true then some h else hs.latest? q key := by
  unfold latest?
  rw [List.find?_cons]
  by_cases hk : h.key = key <;> cases hq : q h <;> simp [hk]

theorem latest?_removed (keys : List Key) {q : Happening S → Bool}
    (hq : ∀ k, q (.removed k) = true) :
    latest? (keys.map .removed ++ hs) q key =
      if key ∈ keys then some (.removed key) else hs.latest? q key := by
  induction keys with
  | nil => rfl
  | cons k rest ih =>
    rw [List.map_cons, List.cons_append, latest?_cons, ih]
    by_cases hk : k = key
    · simp [Happening.key, hk, hq]
    · simp [Happening.key, hk, Ne.symm hk]

theorem requested_cons (h : Happening S) :
    requested (h :: hs) key = if h.key = key then h.request?.isSome else hs.requested key := by
  unfold requested
  rw [latest?_cons]
  by_cases hk : h.key = key <;> simp [hk]

theorem succeeded_cons (h : Happening S) :
    succeeded (h :: hs) key =
      if h.key = key ∧ h.settles = true then h.made?.isSome else hs.succeeded key := by
  unfold succeeded
  rw [latest?_cons]
  by_cases hk : h.key = key ∧ h.settles = true <;> simp [hk]

theorem requested_removed (keys : List Key) :
    requested (keys.map .removed ++ hs) key = (decide (key ∉ keys) && hs.requested key) := by
  unfold requested
  rw [latest?_removed keys fun _ => rfl]
  by_cases hk : key ∈ keys <;> simp [hk, Happening.request?]

theorem succeeded_removed (keys : List Key) :
    succeeded (keys.map .removed ++ hs) key = (decide (key ∉ keys) && hs.succeeded key) := by
  unfold succeeded
  rw [latest?_removed keys fun _ => rfl]
  by_cases hk : key ∈ keys <;> simp [hk, Happening.made?]

theorem Made.mono {hs' : Happenings S} (hsub : hs ⊆ hs') (h : hs.Made key p) : hs'.Made key p :=
  let ⟨r, hr, hkey⟩ := h
  ⟨r, hsub hr, hkey⟩

theorem Obtained.mono {hs' : Happenings S} (hsub : hs ⊆ hs') (h : hs.Obtained key p) :
    hs'.Obtained key p :=
  let ⟨r, attempted, hr, hkey⟩ := h
  ⟨r, attempted, hsub hr, hkey⟩

/-- A key that was requested and not removed is one that something happened to. -/
theorem mem_requestedKeys : key ∈ hs.requestedKeys ↔ hs.requested key = true := by
  unfold requestedKeys
  rw [List.mem_filter, List.mem_dedup, and_iff_right_iff_imp]
  intro h
  unfold requested latest? at h
  cases hl : hs.find? fun h => decide (h.key = key) && true with
  | none =>
    rw [hl] at h
    cases h
  | some found =>
    have hkey := List.find?_some hl
    simp only [Bool.and_true, decide_eq_true_eq] at hkey
    exact List.mem_map.mpr ⟨found, List.mem_of_find?_eq_some hl, hkey⟩

end Happenings

/-! ## What the types of a history have to do with each other -/

/-- What is true of the history of one cache, if all numbers below `next` are taken. -/
structure Happenings.Consistent (hs : Happenings S) (next : Nat) : Prop where
  /-- A synthesized type is what its request gives, and its number is taken. -/
  generated : ∀ {r p}, .requested r true (.ok p) ∈ hs →
    p.serial < next ∧ r.generated p.serial = .ok p
  /-- A request is refused for what is wrong with its type. -/
  refused : ∀ {r attempted e}, .requested r attempted (.error e) ∈ hs →
    ∃ n, r.generated n = .error e
  /-- No number is given twice. -/
  numbered : hs.Pairwise Happening.Differ
  /-- A type that a request gave was synthesized for the key. -/
  obtained : ∀ {key p}, hs.Obtained key p → hs.Made key p

namespace Happenings.Consistent

variable {hs : Happenings S} {next : Nat} {r : Request S} {p p' : ProxyType S}

theorem nil (next : Nat) : Consistent ([] : Happenings S) next where
  generated := nofun
  refused := nofun
  numbered := .nil
  obtained := fun ⟨_, _, h, _⟩ => nomatch h

/-- More numbers are taken. -/
theorem mono (h : hs.Consistent next) {next' : Nat} (hle : next ≤ next') : hs.Consistent next' :=
  ⟨fun hr => ⟨(h.generated hr).1.trans_le hle, (h.generated hr).2⟩, h.refused, h.numbered,
    h.obtained⟩

/-- A request is answered: with a type that is synthesized and takes the next number, with one that
was synthesized for the key before, or with what is wrong with the type. -/
theorem answered (h : hs.Consistent next) {next' : Nat} (hle : next ≤ next') {attempted : Bool}
    {result : Except ProxyError (ProxyType S)}
    (hmade : ∀ p, result = .ok p → attempted = true → next < next' ∧ r.generated next = .ok p)
    (hshared : ∀ p, result = .ok p → attempted = false → hs.Made r.key p)
    (hrefused : ∀ e, result = .error e → ∃ n, r.generated n = .error e) :
    Consistent (.requested r attempted result :: hs) next' := by
  refine ⟨fun hmem => ?_, fun hmem => ?_, ?_, ?_⟩
  · rcases List.mem_cons.mp hmem with heq | hmem
    · cases heq
      obtain ⟨hlt, hp⟩ := hmade _ rfl rfl
      have hserial := (Request.generated_eq_ok hp).1
      exact ⟨hserial ▸ hlt, hserial ▸ hp⟩
    · exact (h.mono hle).generated hmem
  · rcases List.mem_cons.mp hmem with heq | hmem
    · cases heq
      exact hrefused _ rfl
    · exact h.refused hmem
  · refine List.pairwise_cons.mpr ⟨?_, h.numbered⟩
    intro h' hmem p p' hp hp'
    -- the number of a type that is synthesized is above all that are taken
    obtain ⟨_, heq⟩ := Happening.made?_eq_some hp
    obtain ⟨r', rfl⟩ := Happening.made?_eq_some hp'
    obtain ⟨-, hattempted, hresult⟩ := Happening.requested.inj heq
    have hserial := (Request.generated_eq_ok (hmade p hresult hattempted).2).1
    have := (h.generated hmem).1
    omega
  · rintro key p ⟨r', attempted', hmem, rfl⟩
    rcases List.mem_cons.mp hmem with heq | hmem
    · cases heq
      cases attempted with
      | true => exact ⟨r, List.mem_cons_self, rfl⟩
      | false => exact (hshared p rfl rfl).mono (List.subset_cons_self ..)
    · exact (h.obtained ⟨r', attempted', hmem, rfl⟩).mono (List.subset_cons_self ..)

/-- A type that was synthesized before is given again. -/
theorem shared (h : hs.Consistent next) (hp : hs.Made r.key p) :
    Consistent (.requested r false (.ok p) :: hs) next :=
  h.answered (le_refl _) (fun _ _ hattempted => nomatch hattempted)
    (fun _ heq _ => Except.ok.inj heq ▸ hp) (fun _ heq => nomatch heq)

/-- A type is synthesized and takes the next number. -/
theorem made (h : hs.Consistent next) (hp : r.generated next = .ok p) :
    Consistent (.requested r true (.ok p) :: hs) (next + 1) :=
  h.answered (Nat.le_succ _) (fun _ heq _ => ⟨Nat.lt_succ_self _, hp.trans heq⟩)
    (fun _ _ hattempted => nomatch hattempted) (fun _ heq => nomatch heq)

/-- A request is refused. -/
theorem refuse (h : hs.Consistent next) {e : ProxyError} {n : Nat}
    (he : r.generated n = .error e) : Consistent (.requested r true (.error e) :: hs) next :=
  h.answered (le_refl _) (fun _ heq => nomatch heq) (fun _ heq => nomatch heq)
    (fun _ heq => ⟨n, he.trans heq⟩)

/-- Cells are removed. -/
theorem removed (h : hs.Consistent next) (keys : List Key) :
    Consistent (keys.map .removed ++ hs) next := by
  have hold {r : Request S} {attempted : Bool} {result : Except ProxyError (ProxyType S)}
      (hr : .requested r attempted result ∈ keys.map Happening.removed ++ hs) :
      .requested r attempted result ∈ hs := by
    rcases List.mem_append.mp hr with hr | hr
    · obtain ⟨_, _, heq⟩ := List.mem_map.mp hr
      cases heq
    · exact hr
  refine ⟨fun hr => h.generated (hold hr), fun hr => h.refused (hold hr), ?_, ?_⟩
  · refine List.pairwise_append.mpr ⟨?_, h.numbered, ?_⟩
    · refine List.pairwise_map.mpr (List.pairwise_of_forall fun k k' p p' hp => ?_)
      cases hp
    · intro h' hh' h'' _ p p' hp
      obtain ⟨k, _, rfl⟩ := List.mem_map.mp hh'
      cases hp
  · rintro key p ⟨r, attempted, hr, hkey⟩
    exact (h.obtained ⟨r, attempted, hold hr, hkey⟩).mono (List.subset_append_right ..)

/-- A type that was synthesized for the key of a request suits it. -/
theorem suits (h : hs.Consistent next) (hp : hs.Made r.key p) : r.Suits p := by
  obtain ⟨r', hr', hkey⟩ := hp
  obtain ⟨-, hsuits⟩ := Request.generated_eq_ok (h.generated hr').2
  obtain ⟨ht, hi, ho⟩ := Key.mk.inj hkey
  exact ⟨hsuits.type.trans ht, hsuits.interceptor.trans hi, hsuits.options.trans ho⟩

/-- Types with one number were made by one synthesis. -/
theorem identified (h : hs.Consistent next) {key key' : Key} (hp : hs.Obtained key p)
    (hp' : hs.Obtained key' p') (hserial : p.serial = p'.serial) : key = key' ∧ p = p' := by
  obtain ⟨r, hr, rfl⟩ := h.obtained hp
  obtain ⟨r', hr', rfl⟩ := h.obtained hp'
  by_contra hne
  have hdiffer : (Happening.requested r true (.ok p)) ≠ .requested r' true (.ok p') := by
    intro heq
    obtain ⟨rfl, -, hresult⟩ := Happening.requested.inj heq
    exact hne ⟨rfl, Except.ok.inj hresult⟩
  exact h.numbered.forall hr hr' hdiffer p p' rfl rfl hserial

end Happenings.Consistent

/-! ## The cells that a history says -/

/-- The keys that have a cell in one cache and none in another. -/
def Cache.lost (c c' : Cache S) : List Key := c.keys.filter fun key => (c'.cell? key).isNone

theorem Cache.mem_lost {c c' : Cache S} {key : Key} :
    key ∈ c.lost c' ↔ (c.cell? key).isSome ∧ c'.cell? key = none := by
  simp [lost, Cache.mem_keys_iff]

/-- The cells that go and those that stay are all. -/
theorem Cache.size_eq_lost {c c' : Cache S} (hc : c.keys.Nodup) (hc' : c'.keys.Nodup)
    (hsub : c'.keys ⊆ c.keys) : c.size = (c.lost c').length + c'.size := by
  have hstay : (c.keys.filter fun key => !(c'.cell? key).isNone).length = c'.keys.length := by
    refine ((List.perm_ext_iff_of_nodup (hc.filter _) hc').mpr fun key => ?_).length_eq
    rw [List.mem_filter, Cache.mem_keys_iff c', Option.not_isNone]
    exact and_iff_right_of_imp fun h => hsub ((c'.mem_keys_iff key).mpr h)
  rw [Cache.size_eq_keys, Cache.size_eq_keys, ← hstay]
  exact List.length_eq_length_filter_add _

/-- The cache has the cells that the history says, and holds types that were synthesized for the
keys. -/
structure Recorded (c : Cache S) (hs : Happenings S) : Prop where
  nodup : c.keys.Nodup
  filled : ∀ {key stored}, c.find? key = some stored → ∃ p, stored = .proxy p ∧ hs.Made key p
  reserved : ∀ key, (c.cell? key).isSome = hs.requested key
  contains : ∀ key, c.contains key = hs.succeeded key

namespace Recorded

variable {c c' : Cache S} {hs : Happenings S} {r : Request S} {p : ProxyType S}

theorem empty : Recorded (.empty : Cache S) [] where
  nodup := List.nodup_nil
  filled := nofun
  reserved := fun _ => rfl
  contains := fun _ => rfl

/-- The counts of the cache do not matter. -/
theorem recount (h : Recorded c hs) (hits syntheses failures : Nat) :
    Recorded ⟨c.cells, hits, syntheses, failures⟩ hs :=
  ⟨h.nodup, h.filled, h.reserved, h.contains⟩

theorem shared (h : Recorded c hs) (hfound : c.find? r.key = some (.proxy p)) :
    Recorded c (.requested r false (.ok p) :: hs) := by
  refine ⟨h.nodup, fun hstored => ?_, fun key => ?_, fun key => ?_⟩
  · obtain ⟨q, hq, hmade⟩ := h.filled hstored
    exact ⟨q, hq, hmade.mono (List.subset_cons_self ..)⟩
  · rw [Happenings.requested_cons]
    split
    · rename_i hkey
      obtain rfl : r.key = key := hkey
      exact c.isSome_cell?_of_find? r.key hfound
    · exact h.reserved key
  · rw [Happenings.succeeded_cons, if_neg fun hs => (nomatch hs.2)]
    exact h.contains key

theorem made (h : Recorded c hs) (r : Request S) (p : ProxyType S) :
    Recorded ((c.reserve r.key).fill r.key (.proxy p)) (.requested r true (.ok p) :: hs) := by
  refine ⟨?_, fun hstored => ?_, fun key => ?_, fun key => ?_⟩
  · rw [Cache.keys_fill]
    exact Cache.nodup_reserve _ _ h.nodup
  · rw [Cache.find?_fill_reserve] at hstored
    split at hstored
    · rename_i hkey
      exact ⟨p, (Option.some.inj hstored).symm, r, List.mem_cons_self, hkey.symm⟩
    · obtain ⟨q, hq, hmade⟩ := h.filled hstored
      exact ⟨q, hq, hmade.mono (List.subset_cons_self ..)⟩
  · rw [Cache.isSome_cell?_fill, Cache.isSome_cell?_reserve, Happenings.requested_cons, h.reserved]
    by_cases hkey : r.key = key
    · simp [Happening.key, hkey, Happening.request?]
    · simp [Happening.key, hkey, Ne.symm hkey]
  · rw [Cache.contains, Cache.find?_fill_reserve, Happenings.succeeded_cons, ← h.contains]
    by_cases hkey : r.key = key
    · simp [Happening.key, hkey, Happening.settles, Happening.made?]
    · simp [Happening.key, hkey, Ne.symm hkey, Cache.contains]

theorem refuse (h : Recorded c hs) (hnone : c.find? r.key = none) (e : ProxyError) :
    Recorded (c.reserve r.key) (.requested r true (.error e) :: hs) := by
  refine ⟨Cache.nodup_reserve _ _ h.nodup, fun hstored => ?_, fun key => ?_, fun key => ?_⟩
  · rw [Cache.find?_reserve] at hstored
    obtain ⟨q, hq, hmade⟩ := h.filled hstored
    exact ⟨q, hq, hmade.mono (List.subset_cons_self ..)⟩
  · rw [Cache.isSome_cell?_reserve, Happenings.requested_cons, h.reserved]
    by_cases hkey : r.key = key
    · simp [Happening.key, hkey, Happening.request?]
    · simp [Happening.key, hkey, Ne.symm hkey]
  · rw [Cache.contains, Cache.find?_reserve, Happenings.succeeded_cons, ← h.contains]
    by_cases hkey : r.key = key
    · simp [Happening.key, ← hkey, hnone, Happening.settles, Happening.made?]
    · simp [Happening.key, hkey, Cache.contains]

/-- Cells go, and the others stay as they are. -/
theorem removed (h : Recorded c hs) (hnodup : c'.keys.Nodup)
    (hc : ∀ key, c'.cell? key = none ∨ c'.cell? key = c.cell? key) :
    Recorded c' ((c.lost c').map .removed ++ hs) := by
  refine ⟨hnodup, fun {key stored} hstored => ?_, fun key => ?_, fun key => ?_⟩
  · have hcell := (c'.find?_eq_some_iff key).mp hstored
    rcases hc key with hnone | hsame
    · rw [hnone] at hcell
      cases hcell
    · rw [hsame] at hcell
      obtain ⟨p, hp, hmade⟩ := h.filled ((c.find?_eq_some_iff key).mpr hcell)
      exact ⟨p, hp, hmade.mono (List.subset_append_right ..)⟩
  · rw [Happenings.requested_removed, ← h.reserved]
    simp only [Cache.mem_lost]
    rcases hc key with hnone | hsame
    · simp [hnone]
    · rw [hsame]
      cases c.cell? key <;> simp
  · rw [Happenings.succeeded_removed, ← h.contains]
    simp only [Cache.mem_lost, Cache.contains, Cache.find?]
    rcases hc key with hnone | hsame
    · rw [hnone]
      cases c.cell? key <;> simp
    · rw [hsame]
      cases c.cell? key <;> simp

/-- There are as many cells as keys that were requested and not removed since. -/
theorem size (h : Recorded c hs) : c.size = hs.requestedKeys.length := by
  rw [Cache.size_eq_keys]
  have hnodup : hs.requestedKeys.Nodup := (List.nodup_dedup _).filter _
  refine ((List.perm_ext_iff_of_nodup h.nodup hnodup).mpr fun key => ?_).length_eq
  rw [Cache.mem_keys_iff, Happenings.mem_requestedKeys, h.reserved]

end Recorded

end Interpose
