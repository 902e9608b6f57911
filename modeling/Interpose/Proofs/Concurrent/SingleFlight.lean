import Interpose.Proofs.Concurrent.Alone

/-!
# Single flight

However requests, purges and the references of callers come between each other, a key has one type
at a time: as long as callers have a type, or requests are about to return it, no other is
synthesized for the key, and every request that returns a type returns that one. Every request
that ends is counted once.

Results:
* `Machine.Sound.latest`, `Machine.Sound.idle`: which types live, and that none does while one is
  synthesized.
* `Machine.Later.run`: what requests return from some moment on.
* **`Machine.single_flight`**: all of it, for every run and every way on from there.
-/

namespace Interpose.Concurrent

variable {S : Type}

namespace Machine

/-! ## The types that live -/

/-- The type was made for the key, and callers have it, a request is about to return it, or it is
in the cell of the key. -/
structure Lives (m : Machine S) (key : Key) (x : Nat) : Prop where
  made : ∃ stored, m.made[x]? = some (key, stored)
  kept : x ∈ m.held ∨ (∃ f ∈ m.flights, f.stage.inHand = some x) ∨
    ∃ c, m.map key = some c ∧ m.cell c = .filled x

namespace Sound

variable {m : Machine S} {key key' : Key} {i j c x y : Nat} {stage : Stage}

/-- What a request is about to return is in its cell, or the request is inside and has just made
it. -/
theorem inHand_cases (h : m.Sound) (hi : m.flights[i]? = some ⟨key, stage⟩)
    (hx : stage.inHand = some x) : ∃ c, m.map key = some c ∧
      (m.cell c = .filled x ∨ m.cell c = .busy i ∧ stage ≠ .working c .inside ∧
        Latest m.made key x) := by
  have hfits := h.fits _ _ _ hi
  cases stage with
  | calling => cases hx
  | returned r => cases hx
  | working c p =>
    refine ⟨c, hfits.1, ?_⟩
    cases p with
    | fetched => cases hx
    | missed => cases hx
    | inside => cases hx
    | generated r => exact .inr ⟨hfits.2.1, nofun, hfits.2.2 x hx⟩
    | tallied r => exact .inr ⟨hfits.2.1, nofun, hfits.2.2 x hx⟩
    | found y => exact .inl (Option.some.inj hx ▸ hfits.2)
    | counted y => exact .inl (Option.some.inj hx ▸ hfits.2)
    | cloned y => exact .inl (Option.some.inj hx ▸ hfits.2)
    | leaving r => cases hx

/-- Where a type lives: in the cell of its key, or with the request inside that has just made
it. -/
theorem lives_cases (h : m.Sound) (hl : m.Lives key x) : Latest m.made key x ∧
    ∃ c, m.map key = some c ∧ (m.cell c = .filled x ∨ ∃ i stage,
      m.flights[i]? = some ⟨key, stage⟩ ∧ m.cell c = .busy i ∧ stage ≠ .working c .inside) := by
  obtain ⟨⟨stored, hx⟩, hkept⟩ := hl
  -- the key of a type is the one that it was made for
  have hkey {key' : Key} (hlatest : Latest m.made key' x) : key' = key := by
    obtain ⟨⟨stored', hx'⟩, -⟩ := hlatest
    exact congrArg Prod.fst (Option.some.inj (hx'.symm.trans hx))
  rcases hkept with hheld | ⟨⟨key', stage⟩, hf, hhand⟩ | ⟨c, hmap, hfilled⟩
  · obtain ⟨key', c, hmap, hfilled⟩ := h.held x hheld
    have hlatest := h.filled hmap hfilled
    obtain rfl := hkey hlatest
    exact ⟨hlatest, c, hmap, .inl hfilled⟩
  · obtain ⟨i, hi⟩ := List.mem_iff_getElem?.mp hf
    obtain ⟨c, hmap, hfilled | ⟨hbusy, hstage, hlatest⟩⟩ := h.inHand_cases hi hhand
    · have hlatest := h.filled hmap hfilled
      obtain rfl := hkey hlatest
      exact ⟨hlatest, c, hmap, .inl hfilled⟩
    · obtain rfl := hkey hlatest
      exact ⟨hlatest, c, hmap, .inr ⟨i, stage, hi, hbusy, hstage⟩⟩
  · exact ⟨h.filled hmap hfilled, c, hmap, .inl hfilled⟩

/-- A type that lives is the latest of its key. -/
theorem latest (h : m.Sound) (hl : m.Lives key x) : Latest m.made key x := (h.lives_cases hl).1

/-- While a type is synthesized for a key, none of the key lives. -/
theorem idle (h : m.Sound) (hi : m.flights[i]? = some ⟨key, .working c .inside⟩) :
    ¬ m.Lives key x := by
  intro hl
  obtain ⟨hmap, hbusy⟩ := h.fits _ _ _ hi
  change m.cell c = .busy i at hbusy
  obtain ⟨-, c', hmap', hlives⟩ := h.lives_cases hl
  obtain rfl : c = c' := Option.some.inj (hmap.symm.trans hmap')
  rcases hlives with hfilled | ⟨j, stage, hj, hbusy', hstage⟩
  · cases hbusy.symm.trans hfilled
  · obtain rfl : i = j := Content.busy.inj (hbusy.symm.trans hbusy')
    cases hi.symm.trans hj
    exact hstage rfl

/-- One synthesis for a key runs at a time. -/
theorem inside_unique (h : m.Sound) {c' : Nat}
    (hi : m.flights[i]? = some ⟨key, .working c .inside⟩)
    (hj : m.flights[j]? = some ⟨key, .working c' .inside⟩) : i = j := by
  obtain ⟨hmap, hbusy⟩ := h.fits _ _ _ hi
  obtain ⟨hmap', hbusy'⟩ := h.fits _ _ _ hj
  obtain rfl : c = c' := Option.some.inj (hmap.symm.trans hmap')
  exact Content.busy.inj (hbusy.symm.trans hbusy')

end Sound

/-! ## What a step does to the requests -/

/-- The requests that were counted. -/
def total (m : Machine S) : Nat := m.hits + m.syntheses + m.failures

/-- What a step does to the requests, the syntheses and the counts. -/
inductive Change (m m' : Machine S) : Prop
  | still (hflights : m'.flights = m.flights) (hmade : m'.made = m.made)
    (htotal : m'.total = m.total)
  | called (key : Key) (hflights : m'.flights = m.flights ++ [⟨key, .calling⟩])
    (hmade : m'.made = m.made) (htotal : m'.total = m.total)
  /-- One request moves on. It returns a type only after taking a reference to it, and is counted
  once. -/
  | moved {i : Nat} {key : Key} {stage stage' : Stage} (hi : m.flights[i]? = some ⟨key, stage⟩)
    (hflights : m'.flights = m.flights.set i ⟨key, stage'⟩) (hmade : m.made <+: m'.made)
    (htotal : m'.total + stage.isCounted.toNat = m.total + stage'.isCounted.toNat)
    (hreturned : ∀ r, stage' = .returned r → ∀ y, r.type? = some y →
      ∃ c, stage = .working c (.cloned y))

section Change

variable {m m' : Machine S} {i c : Nat} {key : Key} {p : Point} {stage stage' : Stage}

/-- A request moves on that is counted before if it is counted after. -/
theorem Change.put {m₁ : Machine S} (hi : m.flights[i]? = some ⟨key, stage⟩)
    (hflights : m₁.flights = m.flights) (hmade : m.made <+: m₁.made)
    (htotal : m₁.total + stage.isCounted.toNat = m.total + stage'.isCounted.toNat)
    (hstage : stage'.isReturned = false) : Change m (m₁.put i key stage') := by
  have hput : (m₁.put i key stage').flights = m.flights.set i ⟨key, stage'⟩ := by
    rw [← hflights]
    rfl
  refine .moved hi hput hmade htotal fun r hr => ?_
  subst hr
  cases hstage

theorem change_fetch (hi : m.flights[i]? = some ⟨key, .calling⟩) :
    Change m (m.fetch i key) := by
  unfold fetch
  split
  · exact .still rfl rfl rfl
  · exact .put hi rfl (List.prefix_refl _) rfl rfl
  · exact .put hi rfl (List.prefix_refl _) rfl rfl

theorem tally_flights (m : Machine S) (r : Result) : (m.tally r).flights = m.flights ∧
    (m.tally r).made = m.made ∧ (m.tally r).total = m.total + r.isAnswer.toNat := by
  unfold tally
  split
  · refine ⟨rfl, rfl, ?_⟩
    simp only [total, Result.isAnswer, Bool.toNat_true]
    omega
  · refine ⟨rfl, rfl, ?_⟩
    simp only [total, Result.isAnswer, Bool.toNat_true]
    omega
  · rename_i hok herror
    refine ⟨rfl, rfl, ?_⟩
    rcases r with (e | x) | f | payload
    · exact absurd rfl (herror e)
    · exact absurd rfl (hok x)
    · rfl
    · rfl

theorem change_work (h : m.Sound) (hi : m.flights[i]? = some ⟨key, .working c p⟩) :
    Change m (m.work i key c p) := by
  have hprefix : m.made <+: m.made := List.prefix_refl _
  cases p with
  | fetched =>
    unfold work
    dsimp only
    split
    · exact .put hi rfl hprefix rfl rfl
    · exact .put hi rfl hprefix rfl rfl
  | missed =>
    unfold work
    dsimp only
    split
    · exact .put hi rfl hprefix rfl rfl
    · exact .still rfl rfl rfl
    · exact .put hi rfl hprefix rfl rfl
  | inside => exact .still rfl rfl rfl
  | generated r =>
    obtain ⟨hflights, hmade, htotal⟩ := tally_flights m r
    exact .put hi hflights (hmade ▸ hprefix) htotal rfl
  | tallied r =>
    unfold work
    dsimp only
    split
    · rename_i x hx
      have hanswer : r.isAnswer = true := by
        rcases r with (e | y) | f | payload
        · cases hx
        · rfl
        · cases hx
        · cases hx
      refine .put hi rfl hprefix ?_ rfl
      show m.total + r.isAnswer.toNat = m.total + 1
      rw [hanswer]
      rfl
    · exact .put hi rfl hprefix rfl rfl
  | found x =>
    refine .put hi rfl hprefix ?_ rfl
    simp only [total, Stage.isCounted, Point.isCounted, Bool.toNat_true, Bool.toNat_false]
    omega
  | counted x => exact .put hi rfl hprefix rfl rfl
  | cloned x =>
    refine .moved hi rfl hprefix rfl fun r hr y hy => ⟨c, ?_⟩
    obtain rfl := Stage.returned.inj hr
    rw [Option.some.inj hy]
  | leaving r =>
    refine .moved hi rfl hprefix rfl fun r' hr y hy => ?_
    obtain rfl := Stage.returned.inj hr
    cases hy.symm.trans (h.fits _ _ _ hi).2

theorem change_generate (i : Nat) (reply : Reply (Except ProxyError (Stored S))) :
    Change m (m.generate i reply) := by
  unfold generate
  split
  · rename_i key c hi
    rcases reply with (e | stored) | f | payload
    · exact .put hi rfl (List.prefix_refl _) rfl rfl
    · exact .put hi rfl (List.prefix_append ..) rfl rfl
    · exact .put hi rfl (List.prefix_refl _) rfl rfl
    · exact .put hi rfl (List.prefix_refl _) rfl rfl
  · exact .still rfl rfl rfl

theorem purge_flights (m : Machine S) : m.purge.flights = m.flights ∧ m.purge.made = m.made ∧
    m.purge.total = m.total := by
  unfold purge
  repeat' split
  all_goals exact ⟨rfl, rfl, rfl⟩

/-- What every step does. -/
theorem change_step (h : m.Sound) (move : Move S) : Change m (m.step move) := by
  cases move with
  | call key => exact .called key rfl rfl rfl
  | advance i =>
    show Change m (m.advance i)
    unfold advance
    split
    · rename_i hi
      exact change_fetch hi
    · rename_i hi
      exact change_work h hi
    · exact .still rfl rfl rfl
  | generate i reply => exact change_generate i reply
  | lock keys =>
    unfold step
    dsimp only
    split <;> exact .still rfl rfl rfl
  | purge =>
    obtain ⟨hflights, hmade, htotal⟩ := m.purge_flights
    exact .still hflights hmade htotal
  | share x =>
    unfold step
    dsimp only
    split <;> exact .still rfl rfl rfl
  | drop x => exact .still rfl rfl rfl

/-- The counts keep up with the requests. -/
theorem Change.counted (hchange : Change m m')
    (h : m.total = m.flights.countP fun f => f.stage.isCounted) :
    m'.total = m'.flights.countP fun f => f.stage.isCounted := by
  cases hchange with
  | still hflights _ htotal => rw [hflights, htotal, h]
  | called key hflights _ htotal =>
    rw [hflights, htotal, h, List.countP_append]
    rfl
  | @moved i key stage stage' hi hflights _ htotal _ =>
    obtain ⟨hlt, hget⟩ := List.getElem?_eq_some_iff.mp hi
    rw [hflights, List.countP_set hlt, hget]
    cases hcounted : stage.isCounted with
    | false =>
      rw [hcounted] at htotal
      cases hcounted' : stage'.isCounted <;> simp [hcounted'] at htotal ⊢ <;> omega
    | true =>
      have hpos : 0 < m.flights.countP fun f => f.stage.isCounted :=
        List.countP_pos_iff.mpr ⟨_, List.mem_of_getElem? hi, hcounted⟩
      rw [hcounted] at htotal
      cases hcounted' : stage'.isCounted <;> simp [hcounted'] at htotal ⊢ <;> omega

end Change

theorem counted_run : ∀ (moves : List (Move S)) {m : Machine S}, m.Sound →
    m.total = (m.flights.countP fun f => f.stage.isCounted) →
    (m.run moves).total = (m.run moves).flights.countP fun f => f.stage.isCounted
  | [], _, _, hc => hc
  | move :: moves, _, h, hc => counted_run moves (h.step move) ((change_step h move).counted hc)

/-! ## From some moment on -/

/-- What holds from some moment on: a request that returns a type since then returns one that was
made for its key, and none made for the key before that moment is later. -/
structure Later (m m' : Machine S) : Prop where
  made : m.made <+: m'.made
  returned : ∀ (i : Nat) (key : Key) (r : Result), m'.flights[i]? = some ⟨key, .returned r⟩ →
    m.flights[i]? = some ⟨key, .returned r⟩ ∨ ∀ y, r.type? = some y →
      (∃ stored, m'.made[y]? = some (key, stored)) ∧
        ∀ z stored, m.made[z]? = some (key, stored) → z ≤ y

namespace Later

variable {m m' m'' : Machine S}

theorem refl (m : Machine S) : Later m m := ⟨List.prefix_refl _, fun _ _ _ => .inl⟩

theorem step (h : Later m m') (hsound : m'.Sound) (hchange : Change m' m'') : Later m m'' := by
  have hold (hmade : m'.made <+: m''.made) {i : Nat} {key : Key} {r : Result}
      (hi : m'.flights[i]? = some ⟨key, .returned r⟩) :
      m.flights[i]? = some ⟨key, .returned r⟩ ∨ ∀ y, r.type? = some y →
        (∃ stored, m''.made[y]? = some (key, stored)) ∧
          ∀ z stored, m.made[z]? = some (key, stored) → z ≤ y := by
    refine (h.returned i key r hi).imp_right fun hy y hr => ?_
    obtain ⟨⟨stored, hstored⟩, hmax⟩ := hy y hr
    exact ⟨⟨stored, made_mono hmade hstored⟩, hmax⟩
  cases hchange with
  | still hflights hmade _ =>
    have hmade' : m'.made <+: m''.made := hmade ▸ List.prefix_refl _
    refine ⟨h.made.trans hmade', fun i key r hi => hold hmade' ?_⟩
    rwa [hflights] at hi
  | called key' hflights hmade _ =>
    have hmade' : m'.made <+: m''.made := hmade ▸ List.prefix_refl _
    refine ⟨h.made.trans hmade', fun i key r hi => hold hmade' ?_⟩
    rw [hflights] at hi
    rcases getElem?_snoc hi with hi | ⟨-, heq⟩
    · exact hi
    · cases heq
  | @moved j key' stage stage' hj hflights hmade _ hreturned =>
    refine ⟨h.made.trans hmade, fun i key r hi => ?_⟩
    rw [hflights, List.getElem?_set] at hi
    split at hi
    · -- the request that has moved took its type from its cell
      split at hi
      · cases hi
        refine .inr fun y hy => ?_
        obtain ⟨c, rfl⟩ := hreturned r rfl y hy
        obtain ⟨hmap, hfilled⟩ := hsound.fits _ _ _ hj
        obtain ⟨⟨stored, hstored⟩, hmax⟩ := hsound.filled hmap hfilled
        exact ⟨⟨stored, made_mono hmade hstored⟩, fun z stored' hz =>
          hmax z stored' (made_mono h.made hz)⟩
      · cases hi
    · exact hold hmade hi

/-- From every moment on, in every run. -/
theorem run : ∀ (moves : List (Move S)) {m m' : Machine S}, m'.Sound → Later m m' →
    Later m (m'.run moves)
  | [], _, _, _, h => h
  | move :: moves, _, _, hsound, h =>
    run moves (hsound.step move) (h.step hsound (change_step hsound move))

end Later

/-! ## Single flight -/

/-- **What is true of a machine** and of one that it has become. -/
structure Report (m m' : Machine S) : Prop where
  /-- As long as a type lives, no later synthesis for its key has succeeded. -/
  once : ∀ (key : Key) (x y : Nat) (stored : Stored S), m.Lives key x →
    m.made[y]? = some (key, stored) → y ≤ x
  /-- While a type is synthesized for a key, none of the key lives and no other is synthesized. -/
  idle : ∀ (i : Nat) (key : Key) (c : Nat), m.flights[i]? = some ⟨key, .working c .inside⟩ →
    (∀ x, ¬ m.Lives key x) ∧ ∀ (j c' : Nat), m.flights[j]? = some ⟨key, .working c' .inside⟩ → i = j
  /-- All requests that return a type for a key while one lives return that one. -/
  same : ∀ (i : Nat) (key : Key) (x y : Nat), m.Lives key x → m'.Lives key x →
    (∀ r, m.flights[i]? ≠ some ⟨key, .returned r⟩) →
    m'.flights[i]? = some ⟨key, .returned (.ok (.ok y))⟩ → y = x
  /-- With no request in flight, every one that has ended with a type or an error is counted. -/
  counted : (∀ f ∈ m.flights, f.stage.isReturned = true) →
    m.hits + m.syntheses + m.failures = m.flights.countP fun f => f.stage.isAnswered
  /-- A request by itself does what it does in a cache that one thread uses. -/
  request : m.AtRest → ∀ c : Cache S, m.Shows c → ∀ (W : Type) (key : Key)
    (make : W → Reply (Except ProxyError (Stored S)) × W × List Event) (world : W),
    let found := c.lookupOrMake key make world
    let alone := m.run (alone m.flights.length key (make world).1)
    alone.AtRest ∧ alone.Shows found.cache ∧
      ∃ r, alone.flights = m.flights ++ [⟨key, .returned r⟩] ∧
        alone.reading r = found.reply.map (Except.map some)
  /-- So does a purge, where the types in use are those that callers have. -/
  purge : m.AtRest → ∀ c : Cache S, m.Shows c → c.keys.Nodup →
    ∀ keys : List Key, (∀ key ∈ c.keys, key ∈ keys) → ∀ live : List Nat,
    (∀ (key : Key) (x : Nat) (stored : Stored S), m.made[x]? = some (key, stored) →
      (Cache.Stored.inUse live stored = true ↔ x ∈ m.held)) →
    let alone := m.run (purgeAlone keys)
    alone.AtRest ∧ alone.Shows (c.purge live).2.1 ∧ alone.flights = m.flights ∧
      alone.held = m.held

/-- **Every run has single flight**, and so has every way on from there. -/
theorem single_flight (before after : List (Move S)) :
    Report ((start : Machine S).run before) (((start : Machine S).run before).run after) := by
  have h : ((start : Machine S).run before).Sound := Sound.run before Sound.start
  have hcounted := counted_run before (m := (start : Machine S)) Sound.start rfl
  generalize (start : Machine S).run before = m at h hcounted
  have h' : (m.run after).Sound := Sound.run after h
  have hlater : Later m (m.run after) := Later.run after h (.refl m)
  refine ⟨?_, ?_, ?_, ?_, ?_, ?_⟩
  · intro key x y stored hl hy
    exact (h.latest hl).2 y stored hy
  · intro i key c hi
    exact ⟨fun x => h.idle hi, fun j c' hj => h.inside_unique hi hj⟩
  · intro i key x y hl hl' hflight hreturned
    rcases hlater.returned i key _ hreturned with hbefore | hsince
    · exact absurd hbefore (hflight _)
    · obtain ⟨⟨stored, hy⟩, hmax⟩ := hsince y rfl
      obtain ⟨stored', hx⟩ := hl.made
      exact Nat.le_antisymm ((h'.latest hl').2 y stored hy) (hmax x stored' hx)
  · intro hreturned
    refine Eq.trans hcounted (List.countP_congr fun f hf => ?_)
    have hf' := hreturned f hf
    cases hstage : f.stage with
    | calling => rw [hstage] at hf'; cases hf'
    | working c p => rw [hstage] at hf'; cases hf'
    | returned r => rfl
  · intro hrest c hc W key make world
    exact request_alone h hrest hc key make world
  · intro hrest c hc hnodup keys hkeys live hlive
    exact purge_alone h hrest hc hnodup keys hkeys live hlive

/-- Two requests come in for one key. The second waits until the first has synthesized the type,
and both return it; the purge in between finds the cell in use. -/
example :
    let key : Key := ⟨⟨0, "tests::Meter"⟩, ⟨1, "tests::Noop"⟩, .standard⟩
    let m := (start : Machine Unit).run
      [.call key, .call key, .advance 0, .advance 1, .advance 0, .advance 1, .advance 0, .advance 1,
        .generate 0 (.ok (.ok (.foreign 7))), .lock [key], .advance 0, .purge, .advance 0, .purge,
        .advance 1, .advance 0, .advance 0, .advance 1, .advance 1, .advance 1]
    m.held = [0, 0] ∧ m.made.length = 1 ∧ (m.hits, m.syntheses, m.failures) = (1, 1, 0) ∧
      (m.flights.map fun f => f.stage.isReturned) = [true, true] ∧ m.map key = some 0 :=
  ⟨rfl, rfl, rfl, rfl, rfl⟩

end Machine

end Interpose.Concurrent
