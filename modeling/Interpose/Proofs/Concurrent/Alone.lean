import Interpose.Proofs.Cache.Cells
import Interpose.Proofs.Concurrent.Invariant

/-!
# A thread alone

A request or a purge that nothing else comes between does to the concurrent cache what it does to
a cache that is used by one thread: the steps, made one after the other, add up to
`Cache.lookupOrMake` and `Cache.purge`.

Results:
* `Machine.request_alone`: a request by itself.
* `Machine.purge_alone`: a purge by itself.
-/

namespace Interpose.Concurrent

variable {S W : Type}

namespace Machine

/-- What a reader finds in a cell. -/
def content? (m : Machine S) (c : Nat) : Option (Stored S) :=
  match m.cell c with
  | .filled x => m.made[x]?.map Prod.snd
  | _ => none

/-- What a request returned, with the type that it is about. -/
def reading (m : Machine S) (r : Result) : Reply (Except ProxyError (Option (Stored S))) :=
  r.map (Except.map fun x => m.made[x]?.map Prod.snd)

/-- No request is in flight and no purge goes on. -/
structure AtRest (m : Machine S) : Prop where
  returned : ∀ f ∈ m.flights, f.stage.isReturned = true
  sweep : m.sweep = none

/-- The machine has the cells and counts of the cache. -/
structure Shows (m : Machine S) (c : Cache S) : Prop where
  cells : ∀ key, c.cell? key = (m.map key).map m.content?
  hits : c.hits = m.hits
  syntheses : c.syntheses = m.syntheses
  failures : c.failures = m.failures

/-- The moves of a request that runs alone, once it has its cell; if there is a synthesis, it ends
so. -/
def rest (i : Nat) (reply : Reply (Except ProxyError (Stored S))) : List (Move S) :=
  [.advance i, .advance i, .generate i reply, .advance i, .advance i, .advance i, .advance i]

/-- The moves of a request that runs alone. -/
def alone (i : Nat) (key : Key) (reply : Reply (Except ProxyError (Stored S))) : List (Move S) :=
  .call key :: .advance i :: rest i reply

/-- One more request, as the last. -/
def join (m : Machine S) (key : Key) (stage : Stage) : Machine S :=
  { m with flights := m.flights ++ [⟨key, stage⟩] }

/-! ## The steps of a request by itself -/

section Steps

variable {m : Machine S} {key : Key} {cell x : Nat}

theorem rest_found (hcell : m.cell cell = .filled x)
    (reply : Reply (Except ProxyError (Stored S))) :
    (m.join key (.working cell .fetched)).run (rest m.flights.length reply) =
      { m with hits := m.hits + 1, held := x :: m.held }.join key (.returned (.ok (.ok x))) := by
  simp [rest, run, step, advance, work, join, put, generate, hcell]

theorem rest_made (hcell : m.cell cell = .empty) (stored : Stored S) :
    (m.join key (.working cell .fetched)).run (rest m.flights.length (.ok (.ok stored))) =
      { m.fill cell (.filled m.made.length) with
        made := m.made ++ [(key, stored)]
        held := m.made.length :: m.held
        syntheses := m.syntheses + 1 }.join key (.returned (.ok (.ok m.made.length))) := by
  simp [rest, run, step, advance, work, join, put, generate, hcell, record, fill, tally,
    Result.type?]

/-- Emptying a cell that was empty before the request was inside. -/
theorem update_empty (hcell : m.cell cell = .empty) :
    Function.update m.cell cell .empty = m.cell := by
  rw [← hcell, Function.update_eq_self]

theorem rest_refused (hcell : m.cell cell = .empty) (e : ProxyError) :
    (m.join key (.working cell .fetched)).run (rest m.flights.length (.ok (.error e))) =
      { m with failures := m.failures + 1 }.join key (.returned (.ok (.error e))) := by
  simp [rest, run, step, advance, work, join, put, generate, hcell, record, fill, tally,
    Result.type?, update_empty hcell]

theorem rest_panicked (hcell : m.cell cell = .empty) (p : Payload) :
    (m.join key (.working cell .fetched)).run (rest m.flights.length (.panicked p)) =
      m.join key (.returned (.panicked p)) := by
  simp [rest, run, step, advance, work, join, put, generate, hcell, record, fill, tally,
    Result.type?, update_empty hcell]

theorem rest_failed (hcell : m.cell cell = .empty) (f : Failure) :
    (m.join key (.working cell .fetched)).run (rest m.flights.length (.failed f)) =
      m.join key (.returned (.failed f)) := by
  simp [rest, run, step, advance, work, join, put, generate, hcell, record, fill, tally,
    Result.type?, update_empty hcell]

end Steps

/-! ## A request -/

section Request

variable {m : Machine S} {c : Cache S} {key : Key}

/-- The requests do not show. -/
theorem Shows.join (hc : m.Shows c) (key : Key) (stage : Stage) : (m.join key stage).Shows c :=
  ⟨hc.cells, hc.hits, hc.syntheses, hc.failures⟩

/-- A key that has no cell is given an empty one. -/
theorem Shows.insert (hc : m.Shows c) (h : m.Sound) (hnone : m.map key = none) :
    (m.insert key).Shows (c.reserve key) := by
  refine ⟨fun key' => ?_, ?_, ?_, ?_⟩
  · rw [Cache.cell?_reserve, hc.cells]
    by_cases hkey : key' = key
    · subst hkey
      simp [Machine.insert, hnone, content?]
    · rw [if_neg hkey, Option.or_none]
      have hmap : (m.insert key).map key' = m.map key' := Function.update_of_ne hkey ..
      rw [hmap]
      refine Option.map_congr fun cell hcell => ?_
      have hold : (m.insert key).cell cell = m.cell cell :=
        Function.update_of_ne (Nat.ne_of_lt (h.old hcell)) ..
      unfold content?
      rw [hold]
      rfl
  · exact (Cache.hits_reserve ..).trans hc.hits
  · exact (Cache.syntheses_reserve ..).trans hc.syntheses
  · exact (Cache.failures_reserve ..).trans hc.failures

/-- A request by itself fetches its cell. -/
theorem exists_fetched (h : m.Sound) (hrest : m.AtRest) (hc : m.Shows c) (key : Key) :
    ∃ (m₁ : Machine S) (cell : Nat), (m.join key .calling).advance m.flights.length =
        m₁.join key (.working cell .fetched) ∧
      m₁.map key = some cell ∧ m₁.flights = m.flights ∧ m₁.sweep = none ∧ m₁.Sound ∧
      m₁.Shows (c.reserve key) := by
  have hadvance : (m.join key .calling).advance m.flights.length =
      (m.join key .calling).fetch m.flights.length key := by
    unfold advance join
    simp
  rw [hadvance]
  unfold fetch
  cases hmap : m.map key with
  | some cell =>
    refine ⟨m, cell, ?_, hmap, rfl, hrest.sweep, h, ?_⟩
    · simp [join, put, hrest.sweep, hmap]
    · rw [c.reserve_of_isSome key (by rw [hc.cells, hmap]; rfl)]
      exact hc
  | none =>
    refine ⟨m.insert key, m.cells, ?_, Function.update_self .., rfl, hrest.sweep, h.insert hmap,
      hc.insert h hmap⟩
    simp [join, put, Machine.insert, hrest.sweep, hmap]

/-- The cell of a key is filled with a new type. -/
theorem Shows.fill (hc : m.Shows c) (h : m.Sound) {cell : Nat} (hmap : m.map key = some cell)
    (stored : Stored S) (held : List Nat) :
    Shows { m.fill cell (.filled m.made.length) with
        made := m.made ++ [(key, stored)], held, syntheses := m.syntheses + 1 }
      { c.fill key stored with syntheses := c.syntheses + 1 } := by
  refine ⟨fun key' => ?_, hc.hits, congrArg (· + 1) hc.syntheses, hc.failures⟩
  refine (c.cell?_fill key key' stored).trans ?_
  rw [hc.cells, Option.map_map]
  refine Option.map_congr fun cell' hmap' => ?_
  unfold content? Machine.fill
  by_cases hkey : key' = key
  · subst hkey
    obtain rfl : cell = cell' := Option.some.inj (hmap.symm.trans hmap')
    simp
  · have hne : cell' ≠ cell := fun heq => hkey (h.apart hmap' (heq ▸ hmap))
    simp only [Function.comp_apply, if_neg hkey, Function.update_of_ne hne]
    cases hcell : m.cell cell' with
    | empty => rfl
    | busy j => rfl
    | filled x =>
      obtain ⟨⟨stored', hx⟩, -⟩ := h.filled hmap' hcell
      simp only [made_mono (List.prefix_append ..) hx, hx]

/-- **A request by itself** ends as it does in a cache that one thread uses, and leaves the same
cells and counts. -/
theorem request_alone (h : m.Sound) (hrest : m.AtRest) (hc : m.Shows c) (key : Key)
    (make : W → Reply (Except ProxyError (Stored S)) × W × List Event) (world : W) :
    let found := c.lookupOrMake key make world
    let m' := m.run (alone m.flights.length key (make world).1)
    m'.AtRest ∧ m'.Shows found.cache ∧ ∃ r, m'.flights = m.flights ++ [⟨key, .returned r⟩] ∧
      m'.reading r = found.reply.map (Except.map some) := by
  intro found m'
  obtain ⟨m₁, cell, hfetch, hmap, hflights, hsweep, h₁, hc₁⟩ := exists_fetched h hrest hc key
  have hm' : m' = (m₁.join key (.working cell .fetched)).run
      (rest m₁.flights.length (make world).1) := by
    rw [hflights, ← hfetch]
    show m.run (alone m.flights.length key (make world).1) = _
    unfold alone
    rw [run_cons, run_cons]
    rfl
  -- the request has returned, and no other has come in
  have hdone {m₂ : Machine S} {r : Result} (heq : m' = m₂.join key (.returned r))
      (hfl : m₂.flights = m₁.flights) (hsw : m₂.sweep = m₁.sweep)
      (hshows : m₂.Shows found.cache)
      (hreading : m₂.reading r = found.reply.map (Except.map some)) :
      m'.AtRest ∧ m'.Shows found.cache ∧ ∃ r, m'.flights = m.flights ++ [⟨key, .returned r⟩] ∧
        m'.reading r = found.reply.map (Except.map some) := by
    have hfs : m'.flights = m.flights ++ [⟨key, .returned r⟩] := by
      rw [heq, ← hflights, ← hfl]
      rfl
    refine ⟨⟨fun f hf => ?_, ?_⟩, heq ▸ hshows.join .., r, hfs, heq ▸ hreading⟩
    · rw [hfs, List.mem_append, List.mem_singleton] at hf
      rcases hf with hf | rfl
      · exact hrest.returned f hf
      · rfl
    · rw [heq]
      exact hsw.trans hsweep
  have hfind : c.find? key = m₁.content? cell := by
    rw [← c.find?_reserve key, Cache.find?, hc₁.cells, hmap]
    rfl
  cases hcell : m₁.cell cell with
  | filled x =>
    obtain ⟨⟨stored, hx⟩, -⟩ := h₁.filled hmap hcell
    have hsome : c.find? key = some stored := by
      rw [hfind, content?, hcell]
      simp only [hx, Option.map_some]
    have hfound : found = _ := Cache.lookupOrMake_found hsome
    rw [c.reserve_of_isSome key (c.isSome_cell?_of_find? key hsome)] at hc₁
    refine hdone (hm'.trans (rest_found hcell _)) rfl rfl ?_ ?_
    · rw [hfound]
      exact ⟨hc₁.cells, congrArg (· + 1) hc₁.hits, hc₁.syntheses, hc₁.failures⟩
    · rw [hfound]
      simp only [reading, Reply.map, Except.map, hx, Option.map_some]
  | busy j =>
    -- the request inside the cell has returned
    obtain ⟨stage, hj, hstage⟩ := h₁.busy hmap hcell
    rw [hflights] at hj
    have hreturned := hrest.returned _ (List.mem_of_getElem? hj)
    cases stage with
    | calling => cases hreturned
    | working c' p => cases hreturned
    | returned r => cases hstage
  | empty =>
    have hnone : c.find? key = none := by
      rw [hfind, content?, hcell]
    rcases hmake : make world with ⟨reply, world', events⟩
    rw [hmake] at hm'
    rcases reply with (e | stored) | f | payload
    · have hfound : found = _ := Cache.lookupOrMake_refused hnone hmake
      refine hdone (hm'.trans (rest_refused hcell e)) rfl rfl ?_ (hfound ▸ rfl)
      rw [hfound, ← Cache.failures_reserve c key]
      exact ⟨hc₁.cells, hc₁.hits, hc₁.syntheses, congrArg (· + 1) hc₁.failures⟩
    · have hfound : found = _ := Cache.lookupOrMake_made hnone hmake
      refine hdone (hm'.trans (rest_made hcell stored)) rfl rfl ?_ ?_
      · rw [hfound, ← Cache.syntheses_reserve c key]
        exact hc₁.fill h₁ hmap stored _
      · rw [hfound]
        simp [reading, Reply.map, Except.map]
    · have hfound : found = _ := Cache.lookupOrMake_failed hnone hmake
      exact hdone (hm'.trans (rest_failed hcell f)) rfl rfl (hfound ▸ hc₁) (hfound ▸ rfl)
    · have hfound : found = _ := Cache.lookupOrMake_panicked hnone hmake
      exact hdone (hm'.trans (rest_panicked hcell payload)) rfl rfl (hfound ▸ hc₁) (hfound ▸ rfl)

end Request

/-! ## A purge -/

section Purge

variable {m : Machine S} {c : Cache S}

/-- The moves of a purge that runs alone. -/
def purgeAlone (keys : List Key) : List (Move S) :=
  .lock keys :: List.replicate (2 * keys.length + 1) .purge

/-- A request that has returned refers to no cell and to no type. -/
theorem AtRest.free (hrest : m.AtRest) : ∀ f ∈ m.flights,
    f.stage.cell? = none ∧ f.stage.owns = none := by
  intro f hf
  have hf' := hrest.returned f hf
  cases hstage : f.stage with
  | calling => rw [hstage] at hf'; cases hf'
  | working c p => rw [hstage] at hf'; cases hf'
  | returned r => exact ⟨rfl, rfl⟩

theorem AtRest.cellCount (hrest : m.AtRest) (cell : Nat) : m.cellCount cell = 1 := by
  unfold Machine.cellCount
  rw [List.countP_eq_zero.mpr]
  intro f hf
  simp [(hrest.free f hf).1]

/-- At rest, a type in a cell is used when a caller has it. -/
theorem AtRest.isUsed (hrest : m.AtRest) {cell x : Nat} (hcell : m.cell cell = .filled x) :
    m.isUsed cell = true ↔ x ∈ m.held := by
  have hzero : (m.flights.countP fun f => f.stage.owns = some x) = 0 := by
    rw [List.countP_eq_zero]
    intro f hf
    simp [(hrest.free f hf).2]
  simp only [Machine.isUsed, hcell, typeCount, hzero]
  rw [decide_eq_true_iff, ← List.count_pos_iff]
  omega

/-- Without a purge going on, nothing happens. -/
theorem run_purge_idle (hsweep : m.sweep = none) : ∀ n, m.run (List.replicate n .purge) = m
  | 0 => rfl
  | n + 1 => by
    have hstep : m.step .purge = m := by
      show m.purge = m
      unfold purge
      rw [hsweep]
    show (m.step .purge).run (List.replicate n .purge) = m
    rw [hstep, run_purge_idle hsweep n]

/-- A purge by itself keeps the used ones of the cells that it looks at. Two steps for a key are
enough, and one more to give back the lock. -/
theorem run_purge (hrest : m.AtRest) : ∀ (left : List Key) (map : Key → Option Nat) (n : Nat),
    2 * left.length < n →
      run { m with map, sweep := some ⟨left, false⟩ } (List.replicate n .purge) =
        { m with map := fun key => if key ∈ left then (map key).filter m.isUsed else map key }
  | _, _, 0, h => by omega
  | [], map, n + 1, _ => by
    show run { m with map, sweep := none } (List.replicate n .purge) = _
    rw [run_purge_idle rfl]
    simp [← hrest.sweep]
  | key :: rest, map, 1, h => by simp at h
  | key :: rest, map, n + 2, h => by
    rw [List.length_cons] at h
    -- once the key is done, the rest are as they were
    have hrest' (map' : Key → Option Nat) (n : Nat) (hn : 2 * rest.length < n)
        (hself : map' key = (map key).filter m.isUsed) (hother : ∀ k, k ≠ key → map' k = map k) :
        run { m with map := map', sweep := some ⟨rest, false⟩ } (List.replicate n .purge) =
          { m with
            map := fun k => if k ∈ key :: rest then (map k).filter m.isUsed else map k } := by
      rw [run_purge hrest rest map' n hn]
      congr 1
      funext k
      by_cases hk : k = key
      · subst hk
        by_cases hr : k ∈ rest <;> simp [hr, hself]
      · by_cases hr : k ∈ rest <;> simp [hk, hr, hother k hk]
    cases hkey : map key with
    | none =>
      have hstep : step { m with map, sweep := some ⟨key :: rest, false⟩ } .purge =
          { m with map, sweep := some ⟨rest, false⟩ } := by
        simp only [step, purge, hkey]
      show run (step _ .purge) (List.replicate (n + 1) .purge) = _
      rw [hstep]
      exact hrest' map (n + 1) (by omega) (by rw [hkey]; rfl) fun _ _ => rfl
    | some cell =>
      have hcount : ¬ 1 < cellCount { m with map, sweep := some ⟨key :: rest, false⟩ } cell := by
        have := hrest.cellCount cell
        change ¬ 1 < m.cellCount cell
        omega
      have hinspect : step { m with map, sweep := some ⟨key :: rest, false⟩ } .purge =
          { m with map, sweep := some ⟨key :: rest, true⟩ } := by
        simp only [step, purge, hkey, if_neg hcount]
      show run (step (step _ .purge) .purge) (List.replicate n .purge) = _
      rw [hinspect]
      by_cases hused : m.isUsed cell = true
      · have hjudge : step { m with map, sweep := some ⟨key :: rest, true⟩ } .purge =
            { m with map, sweep := some ⟨rest, false⟩ } := by
          simp only [step, purge, hkey, Option.any_some]
          exact if_pos hused
        rw [hjudge]
        refine hrest' map n (by omega) ?_ fun _ _ => rfl
        simp [hkey, Option.filter, hused]
      · have hjudge : step { m with map, sweep := some ⟨key :: rest, true⟩ } .purge =
            { m with map := Function.update map key none, sweep := some ⟨rest, false⟩ } := by
          simp only [step, purge, hkey, Option.any_some]
          exact if_neg hused
        rw [hjudge]
        refine hrest' _ n (by omega) ?_ fun k hk => Function.update_of_ne hk ..
        simp [hkey, Option.filter, hused]

/-- **A purge by itself** keeps the cells that a purge of a cache keeps that one thread uses,
whatever the order in which it looks at the keys. -/
theorem purge_alone (h : m.Sound) (hrest : m.AtRest) (hc : m.Shows c) (hnodup : c.keys.Nodup)
    (keys : List Key) (hkeys : ∀ key ∈ c.keys, key ∈ keys) (live : List Nat)
    (hlive : ∀ key x stored, m.made[x]? = some (key, stored) →
      (Cache.Stored.inUse live stored = true ↔ x ∈ m.held)) :
    let m' := m.run (purgeAlone keys)
    m'.AtRest ∧ m'.Shows (c.purge live).2.1 ∧ m'.flights = m.flights ∧ m'.held = m.held := by
  have hrun : m.run (purgeAlone keys) = { m with
      map := fun key => if key ∈ keys then (m.map key).filter m.isUsed else m.map key } := by
    refine Eq.trans ?_ (run_purge hrest keys m.map (2 * keys.length + 1) (by omega))
    show run (step m (.lock keys)) _ = _
    simp only [step, hrest.sweep, Option.isSome_none, Bool.false_eq_true, if_false]
  intro m'
  rw [show m' = _ from hrun]
  refine ⟨⟨hrest.returned, hrest.sweep⟩, ⟨fun key => ?_, hc.hits, hc.syntheses, hc.failures⟩, rfl,
    rfl⟩
  rw [Cache.cell?_purge c key hnodup, hc.cells]
  cases hmap : m.map key with
  | none => simp [hmap]
  | some cell =>
    have hkey : key ∈ keys := by
      refine hkeys key ((c.mem_keys_iff key).mpr ?_)
      rw [hc.cells, hmap]
      rfl
    -- the cell is kept in both if a caller has its type
    have hused : (m.content? cell).any (Cache.Stored.inUse live) = m.isUsed cell := by
      unfold content?
      cases hcell : m.cell cell with
      | empty => simp [Machine.isUsed, hcell]
      | busy j => simp [Machine.isUsed, hcell]
      | filled x =>
        obtain ⟨⟨stored, hx⟩, -⟩ := h.filled hmap hcell
        rw [Bool.eq_iff_iff, hrest.isUsed hcell]
        simpa [hx] using hlive key x stored hx
    simp only [hmap, if_pos hkey, Option.map_some, Option.filter, hused]
    by_cases hu : m.isUsed cell = true
    · simp only [if_pos hu, Option.map_some]
      rfl
    · simp only [if_neg hu, Option.map_none]

end Purge

end Machine

end Interpose.Concurrent
