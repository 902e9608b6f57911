import Interpose.Proofs.Concurrent.Machine
import Mathlib.Data.List.Basic
import Mathlib.Data.List.Infix

/-!
# What the steps of a concurrent cache keep true

A request refers to the cell that the map has for its key, so a purge finds every cell that a
request works with referred to twice. A cell is filled with the latest type of its key, or one
request is inside. A type that a caller has is in a cell of the map, so a purge that finds a cell
referred to once, and then its type too, removes what nobody else has.

Results:
* `Machine.Sound`: the invariant, and one lemma per way in which the machine changes.
* `Machine.Sound.run`: every run keeps it.
-/

namespace Interpose.Concurrent

variable {S : Type}

/-! ## The latest type of a key -/

/-- The type was made by the last successful synthesis for the key. -/
def Latest (made : List (Key × Stored S)) (key : Key) (x : Nat) : Prop :=
  (∃ stored, made[x]? = some (key, stored)) ∧ ∀ y stored, made[y]? = some (key, stored) → y ≤ x

section Latest

variable {made : List (Key × Stored S)} {key other : Key} {stored : Stored S} {x : Nat}

/-- The new item of a longer list, or an old one. -/
theorem getElem?_snoc {α : Type} {l : List α} {a b : α} {n : Nat} (h : (l ++ [a])[n]? = some b) :
    l[n]? = some b ∨ n = l.length ∧ b = a := by
  have hlt := (List.getElem?_eq_some_iff.mp h).1
  rw [List.length_append, List.length_singleton] at hlt
  rcases Nat.lt_or_ge n l.length with hold | hnew
  · rw [List.getElem?_append_left hold] at h
    exact .inl h
  · obtain rfl : n = l.length := by omega
    rw [List.getElem?_concat_length] at h
    exact .inr ⟨rfl, (Option.some.inj h).symm⟩

/-- What was made stays made. -/
theorem made_mono {made' : List (Key × Stored S)} (hmade : made <+: made')
    (h : made[x]? = some (key, stored)) : made'[x]? = some (key, stored) := by
  obtain ⟨new, rfl⟩ := hmade
  rw [List.getElem?_append_left (List.getElem?_eq_some_iff.mp h).1]
  exact h

/-- A synthesis for another key changes nothing. -/
theorem Latest.append (h : Latest made key x) (hne : key ≠ other) :
    Latest (made ++ [(other, stored)]) key x := by
  obtain ⟨⟨stored', hx⟩, hmax⟩ := h
  refine ⟨⟨stored', made_mono (List.prefix_append ..) hx⟩, fun y stored'' hy => ?_⟩
  rcases getElem?_snoc hy with hy | ⟨-, heq⟩
  · exact hmax y stored'' hy
  · exact absurd (congrArg Prod.fst heq) hne

theorem Latest.last : Latest (made ++ [(key, stored)]) key made.length := by
  refine ⟨⟨stored, by simp⟩, fun y stored' hy => ?_⟩
  have := (List.getElem?_eq_some_iff.mp hy).1
  rw [List.length_append, List.length_singleton] at this
  omega

end Latest

/-! ## The invariant -/

/-- Where a request stands fits what its cell holds. -/
def Point.Fits (made : List (Key × Stored S)) (key : Key) (i : Nat) (content : Content) :
    Point → Prop
  | fetched | missed => True
  | inside => content = .busy i
  | generated r | tallied r => content = .busy i ∧ ∀ x, r.type? = some x → Latest made key x
  | found x | counted x | cloned x => content = .filled x
  | leaving r => r.type? = none

/-- A request that is not inside does not mind what an empty cell, or one in use by another request,
becomes. -/
theorem Point.Fits.change {made : List (Key × Stored S)} {key : Key} {i : Nat}
    {content content' : Content} {p : Point} (h : p.Fits made key i content)
    (hfree : content = .empty ∨ ∃ j, j ≠ i ∧ content = .busy j) : p.Fits made key i content' := by
  have hbusy : content ≠ .busy i := by
    rcases hfree with rfl | ⟨j, hj, rfl⟩
    · nofun
    · exact fun heq => hj (Content.busy.inj heq)
  have hfilled (x : Nat) : content ≠ .filled x := by
    rcases hfree with rfl | ⟨j, -, rfl⟩ <;> nofun
  cases p with
  | fetched => trivial
  | missed => trivial
  | inside => exact absurd h hbusy
  | generated r => exact absurd h.1 hbusy
  | tallied r => exact absurd h.1 hbusy
  | found x => exact absurd h (hfilled x)
  | counted x => exact absurd h (hfilled x)
  | cloned x => exact absurd h (hfilled x)
  | leaving r => exact h

namespace Machine

/-- Where a request stands fits the machine. -/
def Fits (m : Machine S) (i : Nat) (key : Key) : Stage → Prop
  | .calling => True
  | .working c p => m.map key = some c ∧ p.Fits m.made key i (m.cell c)
  | .returned r => ∀ x, r.type? = some x → ∃ stored, m.made[x]? = some (key, stored)

/-- What every run keeps true. -/
structure Sound (m : Machine S) : Prop where
  fits : ∀ i key stage, m.flights[i]? = some ⟨key, stage⟩ → m.Fits i key stage
  /-- No two keys have one cell. -/
  apart : ∀ {key key' c}, m.map key = some c → m.map key' = some c → key = key'
  /-- Cells of the map are not new. -/
  old : ∀ {key c}, m.map key = some c → c < m.cells
  /-- A cell is filled with the latest type of its key. -/
  filled : ∀ {key c x}, m.map key = some c → m.cell c = .filled x → Latest m.made key x
  /-- A request is inside its cell. -/
  busy : ∀ {key c i}, m.map key = some c → m.cell c = .busy i →
    ∃ stage, m.flights[i]? = some ⟨key, stage⟩ ∧ stage.runs? = some c
  /-- What callers have is in cells of the map. -/
  held : ∀ x ∈ m.held, ∃ key c, m.map key = some c ∧ m.cell c = .filled x
  /-- Once a purge has seen a cell that the map alone refers to, this stays so. -/
  alone : ∀ key rest, m.sweep = some ⟨key :: rest, true⟩ →
    ∃ c, m.map key = some c ∧ ∀ f ∈ m.flights, f.stage.cell? ≠ some c

namespace Sound

variable {m : Machine S} {i c x : Nat} {key : Key} {stage stage' : Stage} {p q : Point}
  {content : Content}

theorem start : (Machine.start : Machine S).Sound where
  fits := fun _ _ _ h => by cases h
  apart := nofun
  old := nofun
  filled := nofun
  busy := nofun
  held := nofun
  alone := nofun

/-! ### One request moves on -/

/-- The requests after one has moved on. -/
theorem flights_put {f : Flight} {j : Nat} (hi : i < m.flights.length) :
    (m.put i key stage).flights[j]? = some f ↔
      (j = i ∧ f = ⟨key, stage⟩) ∨ (j ≠ i ∧ m.flights[j]? = some f) := by
  show (m.flights.set i _)[j]? = _ ↔ _
  rw [List.getElem?_set]
  by_cases hj : i = j
  · subst hj
    simp [hi, eq_comm]
  · simp [hj, Ne.symm hj]

/-- A request moves on and nothing else changes. -/
theorem put (h : m.Sound) (hi : m.flights[i]? = some ⟨key, stage⟩)
    (hfits : m.Fits i key stage')
    (hcell : ∀ c, stage'.cell? = some c → stage.cell? = some c ∨ m.sweep = none)
    (hruns : ∀ c, stage.runs? = some c → stage'.runs? = some c) :
    (m.put i key stage').Sound := by
  have hlt := (List.getElem?_eq_some_iff.mp hi).1
  refine ⟨?_, h.apart, h.old, h.filled, ?_, h.held, ?_⟩
  · intro j key' stage'' hj
    rcases (flights_put hlt).mp hj with ⟨rfl, heq⟩ | ⟨-, hj⟩
    · cases heq
      exact hfits
    · exact h.fits j key' stage'' hj
  · intro key' c j hmap hbusy
    obtain ⟨stage'', hj, hstage⟩ := h.busy hmap hbusy
    by_cases hji : j = i
    · subst hji
      cases hi.symm.trans hj
      exact ⟨stage', (flights_put hlt).mpr (.inl ⟨rfl, rfl⟩), hruns c hstage⟩
    · exact ⟨stage'', (flights_put hlt).mpr (.inr ⟨hji, hj⟩), hstage⟩
  · intro key' rest hsweep
    obtain ⟨c, hmap, hfree⟩ := h.alone key' rest hsweep
    refine ⟨c, hmap, fun f hf hfc => ?_⟩
    obtain ⟨j, hj⟩ := List.mem_iff_getElem?.mp hf
    rcases (flights_put hlt).mp hj with ⟨rfl, rfl⟩ | ⟨-, hj⟩
    · rcases hcell c hfc with hold | hnone
      · exact hfree _ (List.mem_of_getElem? hi) hold
      · cases hnone.symm.trans hsweep
    · exact hfree f (List.mem_of_getElem? hj) hfc

/-- Counting changes nothing else. -/
theorem recount (h : m.Sound) (hits syntheses failures : Nat) :
    Sound { m with hits, syntheses, failures } :=
  ⟨h.fits, h.apart, h.old, h.filled, h.busy, h.held, h.alone⟩

/-- Callers may have what is in cells of the map. -/
theorem hold (h : m.Sound) {held : List Nat}
    (hheld : ∀ x ∈ held, ∃ key c, m.map key = some c ∧ m.cell c = .filled x) :
    Sound { m with held } :=
  ⟨h.fits, h.apart, h.old, h.filled, h.busy, hheld, h.alone⟩

/-- A new request comes in. -/
theorem call (h : m.Sound) (key : Key) :
    Sound { m with flights := m.flights ++ [⟨key, .calling⟩] } := by
  refine ⟨?_, h.apart, h.old, h.filled, ?_, h.held, ?_⟩
  · intro j key' stage hj
    rcases getElem?_snoc hj with hj | ⟨-, heq⟩
    · exact h.fits j key' stage hj
    · cases heq
      trivial
  · intro key' c j hmap hbusy
    obtain ⟨stage, hj, hstage⟩ := h.busy hmap hbusy
    refine ⟨stage, ?_, hstage⟩
    rw [List.getElem?_append_left (List.getElem?_eq_some_iff.mp hj).1]
    exact hj
  · intro key' rest hsweep
    obtain ⟨c, hmap, hfree⟩ := h.alone key' rest hsweep
    refine ⟨c, hmap, fun f hf => ?_⟩
    rcases List.mem_append.mp hf with hf | hf
    · exact hfree f hf
    · rw [List.mem_singleton.mp hf]
      nofun

/-! ### Cells change -/

/-- A request fills, empties or enters its cell, which was empty or in use by that request. -/
theorem fill (h : m.Sound) (hi : m.flights[i]? = some ⟨key, .working c p⟩)
    (hfree : m.cell c = .empty ∨ m.cell c = .busy i)
    (hlatest : ∀ x, content = .filled x → Latest m.made key x)
    (hruns : ∀ j, content = .busy j → j = i ∧ q.runs = true)
    (hfits : q.Fits m.made key i content) :
    ((m.fill c content).put i key (.working c q)).Sound := by
  have hlt := (List.getElem?_eq_some_iff.mp hi).1
  have hmap : m.map key = some c := (h.fits _ _ _ hi).1
  have hcell : (m.fill c content).cell c = content := Function.update_self ..
  have hother {c' : Nat} (hc : c' ≠ c) : (m.fill c content).cell c' = m.cell c' :=
    Function.update_of_ne hc ..
  refine ⟨?_, h.apart, h.old, ?_, ?_, ?_, ?_⟩
  · intro j key' stage hj
    rcases (flights_put (m := m.fill c content) hlt).mp hj with ⟨rfl, heq⟩ | ⟨hji, hj⟩
    · cases heq
      exact ⟨hmap, hcell.symm ▸ hfits⟩
    · have hold := h.fits j key' stage hj
      cases stage with
      | calling => trivial
      | returned r => exact hold
      | working c' p'' =>
        refine ⟨hold.1, ?_⟩
        show p''.Fits m.made key' j ((m.fill c content).cell c')
        by_cases hc : c' = c
        · subst hc
          refine hold.2.change (hfree.imp_right fun hbusy => ⟨i, Ne.symm hji, hbusy⟩)
        · rw [hother hc]
          exact hold.2
  · intro key' c' x hmap' hfilled
    by_cases hc : c' = c
    · subst hc
      obtain rfl := h.apart hmap hmap'
      exact hlatest x (hcell.symm.trans hfilled)
    · exact h.filled hmap' ((hother hc).symm.trans hfilled)
  · intro key' c' j hmap' hbusy
    by_cases hc : c' = c
    · subst hc
      obtain rfl := h.apart hmap hmap'
      obtain ⟨rfl, hp⟩ := hruns j (hcell.symm.trans hbusy)
      refine ⟨_, (flights_put (m := m.fill c' content) hlt).mpr (.inl ⟨rfl, rfl⟩), ?_⟩
      simp [Stage.runs?, hp]
    · obtain ⟨stage, hj, hstage⟩ := h.busy hmap' ((hother hc).symm.trans hbusy)
      refine ⟨stage, (flights_put (m := m.fill c content) hlt).mpr (.inr ⟨?_, hj⟩), hstage⟩
      -- the request has one cell only
      rintro rfl
      cases hi.symm.trans hj
      simp only [Stage.runs?] at hstage
      split at hstage
      · exact hc (Option.some.inj hstage).symm
      · cases hstage
  · intro x hx
    obtain ⟨key', c', hmap', hfilled⟩ := h.held x hx
    refine ⟨key', c', hmap', (hother ?_).trans hfilled⟩
    rintro rfl
    rcases hfree with hfree | hfree <;> cases hfree.symm.trans hfilled
  · intro key' rest hsweep
    obtain ⟨c', hmap', hnone⟩ := h.alone key' rest hsweep
    refine ⟨c', hmap', fun f hf hfc => ?_⟩
    obtain ⟨j, hj⟩ := List.mem_iff_getElem?.mp hf
    rcases (flights_put (m := m.fill c content) hlt).mp hj with ⟨rfl, rfl⟩ | ⟨-, hj⟩
    · exact hnone _ (List.mem_of_getElem? hi) hfc
    · exact hnone f (List.mem_of_getElem? hj) hfc

/-- A key gets a cell. -/
theorem insert (h : m.Sound) (hnone : m.map key = none) : (m.insert key).Sound := by
  have hself : (m.insert key).map key = some m.cells := Function.update_self ..
  have hnew : (m.insert key).cell m.cells = .empty := Function.update_self ..
  have hkey {key' : Key} {c : Nat} (hmap : m.map key' = some c) :
      (m.insert key).map key' = some c ∧ (m.insert key).cell c = m.cell c := by
    have hne : key' ≠ key := fun heq => by cases (heq ▸ hmap).symm.trans hnone
    exact ⟨(Function.update_of_ne hne ..).trans hmap,
      Function.update_of_ne (Nat.ne_of_lt (h.old hmap)) ..⟩
  -- the new cell of the key, or an old one of another key
  have hmap' {key' : Key} {c : Nat} (hmap : (m.insert key).map key' = some c) :
      key' = key ∧ c = m.cells ∨ m.map key' = some c := by
    by_cases heq : key' = key
    · subst heq
      exact .inl ⟨rfl, Option.some.inj (hmap.symm.trans hself)⟩
    · exact .inr ((Function.update_of_ne heq ..).symm.trans hmap)
  refine ⟨?_, ?_, ?_, ?_, ?_, ?_, ?_⟩
  · intro j key' stage hj
    have hold := h.fits j key' stage hj
    cases stage with
    | calling => trivial
    | returned r => exact hold
    | working c p =>
      obtain ⟨hmap, hcell⟩ := hkey hold.1
      exact ⟨hmap, hcell.symm ▸ hold.2⟩
  · intro key₁ key₂ c h₁ h₂
    rcases hmap' h₁ with ⟨rfl, hnew₁⟩ | hold₁ <;> rcases hmap' h₂ with ⟨rfl, hnew₂⟩ | hold₂
    · rfl
    · exact absurd (h.old hold₂) (by omega)
    · exact absurd (h.old hold₁) (by omega)
    · exact h.apart hold₁ hold₂
  · intro key' c hmap
    show c < m.cells + 1
    rcases hmap' hmap with ⟨-, rfl⟩ | hmap
    · exact Nat.lt_succ_self _
    · exact Nat.lt_succ_of_lt (h.old hmap)
  · intro key' c x hmap hfilled
    rcases hmap' hmap with ⟨-, rfl⟩ | hmap
    · cases hnew.symm.trans hfilled
    · exact h.filled hmap ((hkey hmap).2.symm.trans hfilled)
  · intro key' c j hmap hbusy
    rcases hmap' hmap with ⟨-, rfl⟩ | hmap
    · cases hnew.symm.trans hbusy
    · exact h.busy hmap ((hkey hmap).2.symm.trans hbusy)
  · intro x hx
    obtain ⟨key', c, hmap, hfilled⟩ := h.held x hx
    exact ⟨key', c, (hkey hmap).1, (hkey hmap).2.trans hfilled⟩
  · intro key' rest hsweep
    obtain ⟨c, hmap, hfree⟩ := h.alone key' rest hsweep
    exact ⟨c, (hkey hmap).1, hfree⟩

/-- A synthesis succeeds for the key of a cell that a request is inside and has not synthesized a
type for. -/
theorem append (h : m.Sound) (hi : m.flights[i]? = some ⟨key, .working c .inside⟩)
    (stored : Stored S) : Sound { m with made := m.made ++ [(key, stored)] } := by
  obtain ⟨hmap, hbusy⟩ := h.fits _ _ _ hi
  change m.cell c = .busy i at hbusy
  -- no other request of the key is inside
  have hne {j : Nat} {key' : Key} {c' : Nat} {p : Point} {r : Result}
      (hj : m.flights[j]? = some ⟨key', .working c' p⟩) (hp : p = .generated r ∨ p = .tallied r)
      (hcell : m.cell c' = .busy j) : key' ≠ key := by
    rintro rfl
    cases hmap.symm.trans (h.fits _ _ _ hj).1
    cases hbusy.symm.trans hcell
    rcases hp with rfl | rfl <;> cases hi.symm.trans hj
  refine ⟨?_, h.apart, h.old, ?_, h.busy, h.held, h.alone⟩
  · intro j key' stage hj
    have hold := h.fits j key' stage hj
    cases stage with
    | calling => trivial
    | returned r =>
      intro x hx
      obtain ⟨stored', hstored'⟩ := hold x hx
      exact ⟨stored', made_mono (List.prefix_append ..) hstored'⟩
    | working c' p =>
      refine ⟨hold.1, ?_⟩
      cases p with
      | generated r =>
        have hother := hne hj (.inl rfl) hold.2.1
        exact ⟨hold.2.1, fun x hx => (hold.2.2 x hx).append hother⟩
      | tallied r =>
        have hother := hne hj (.inr rfl) hold.2.1
        exact ⟨hold.2.1, fun x hx => (hold.2.2 x hx).append hother⟩
      | _ => exact hold.2
  · intro key' c' x hmap' hfilled
    refine (h.filled hmap' hfilled).append ?_
    rintro rfl
    cases hmap.symm.trans hmap'
    cases hbusy.symm.trans hfilled

/-! ### A purge -/

/-- A purge goes on, or takes or gives back the lock. -/
theorem resweep (h : m.Sound) {sweep : Option Sweep}
    (halone : ∀ key rest, sweep = some ⟨key :: rest, true⟩ →
      ∃ c, m.map key = some c ∧ ∀ f ∈ m.flights, f.stage.cell? ≠ some c) :
    Sound { m with sweep } :=
  ⟨h.fits, h.apart, h.old, h.filled, h.busy, h.held, halone⟩

/-- A key loses a cell that no request refers to and whose type no caller has. -/
theorem remove (h : m.Sound) {rest : List Key} (hmap : m.map key = some c)
    (hfree : ∀ f ∈ m.flights, f.stage.cell? ≠ some c)
    (hunheld : ∀ x ∈ m.held, m.cell c ≠ .filled x) :
    Sound { m with map := Function.update m.map key none, sweep := some ⟨rest, false⟩ } := by
  have hkeep {key' : Key} {c' : Nat} (hmap' : m.map key' = some c') (hc : c' ≠ c) :
      Function.update m.map key none key' = some c' := by
    refine (Function.update_of_ne ?_ ..).trans hmap'
    rintro rfl
    exact hc (Option.some.inj (hmap'.symm.trans hmap))
  have hold {key' : Key} {c' : Nat} (hmap' : Function.update m.map key none key' = some c') :
      m.map key' = some c' := by
    by_cases heq : key' = key
    · subst heq
      rw [Function.update_self] at hmap'
      cases hmap'
    · exact (Function.update_of_ne heq ..).symm.trans hmap'
  refine ⟨?_, fun h₁ h₂ => h.apart (hold h₁) (hold h₂), fun h₁ => h.old (hold h₁),
    fun h₁ => h.filled (hold h₁), fun h₁ => h.busy (hold h₁), ?_, nofun⟩
  · intro j key' stage hj
    have hfits := h.fits j key' stage hj
    cases stage with
    | calling => trivial
    | returned r => exact hfits
    | working c' p =>
      refine ⟨hkeep hfits.1 ?_, hfits.2⟩
      rintro rfl
      exact hfree _ (List.mem_of_getElem? hj) rfl
  · intro x hx
    obtain ⟨key', c', hmap', hfilled⟩ := h.held x hx
    refine ⟨key', c', hkeep hmap' ?_, hfilled⟩
    rintro rfl
    exact hunheld x hx hfilled

/-! ### Every step -/

theorem fetch (h : m.Sound) (hi : m.flights[i]? = some ⟨key, .calling⟩) :
    (m.fetch i key).Sound := by
  unfold Machine.fetch
  split
  · exact h
  · rename_i c hsweep hmap
    exact h.put hi ⟨hmap, trivial⟩ (fun _ _ => .inr hsweep) nofun
  · rename_i hsweep hmap
    exact (h.insert hmap).put hi ⟨Function.update_self .., trivial⟩ (fun _ _ => .inr hsweep) nofun

theorem work (h : m.Sound) (hi : m.flights[i]? = some ⟨key, .working c p⟩) :
    (m.work i key c p).Sound := by
  obtain ⟨hmap, hp⟩ := h.fits _ _ _ hi
  -- the cell of the request stays the same
  have hput {q : Point} (hq : q.Fits m.made key i (m.cell c)) (hruns : p.runs = q.runs) :
      (m.put i key (.working c q)).Sound :=
    h.put hi ⟨hmap, hq⟩ (fun _ => .inl) fun c' hc' => by simpa [Stage.runs?, ← hruns] using hc'
  cases p with
  | fetched =>
    unfold Machine.work
    dsimp only
    split
    · rename_i x hfilled
      exact hput hfilled rfl
    · exact hput trivial rfl
  | missed =>
    unfold Machine.work
    dsimp only
    split
    · rename_i x hfilled
      exact hput hfilled rfl
    · exact h
    · rename_i hempty
      exact h.fill hi (.inl hempty) nofun (fun j hj => ⟨(Content.busy.inj hj).symm, rfl⟩) rfl
  | inside => exact h
  | generated r =>
    have hput' := hput (q := .tallied r) hp rfl
    show ((m.tally r).put i key (.working c (.tallied r))).Sound
    unfold Machine.tally
    split
    · exact hput'.recount ..
    · exact hput'.recount ..
    · exact hput'
  | tallied r =>
    unfold Machine.work
    dsimp only
    split
    · rename_i x hx
      refine h.fill hi (.inr hp.1) (fun y hy => ?_) nofun rfl
      obtain rfl := Content.filled.inj hy
      exact hp.2 x hx
    · rename_i hnone
      exact h.fill hi (.inr hp.1) nofun nofun hnone
  | found x => exact (hput (q := .counted x) hp rfl).recount ..
  | counted x => exact hput hp rfl
  | cloned x =>
    have hmade := (h.filled hmap hp).1
    have hput' : (m.put i key (.returned (.ok (.ok x)))).Sound := by
      refine h.put hi (fun y hy => ?_) nofun nofun
      obtain rfl := Option.some.inj hy
      exact hmade
    refine hput'.hold fun y hy => ?_
    rcases List.mem_cons.mp hy with rfl | hy
    · exact ⟨key, c, hmap, hp⟩
    · exact h.held y hy
  | leaving r =>
    refine h.put hi (fun y hy => ?_) nofun nofun
    cases hy.symm.trans hp

theorem advance (h : m.Sound) (i : Nat) : (m.advance i).Sound := by
  unfold Machine.advance
  split
  · rename_i hi
    exact h.fetch hi
  · rename_i hi
    exact h.work hi
  · exact h

theorem generate (h : m.Sound) (i : Nat) (reply : Reply (Except ProxyError (Stored S))) :
    (m.generate i reply).Sound := by
  unfold Machine.generate
  split
  · rename_i key c hi
    obtain ⟨hmap, hbusy⟩ := h.fits _ _ _ hi
    have hput {r : Result} (hr : r.type? = none) :
        (m.put i key (.working c (.generated r))).Sound := by
      refine h.put hi ⟨hmap, hbusy, fun x hx => ?_⟩ (fun _ => .inl) fun _ => id
      cases hr.symm.trans hx
    rcases reply with (e | stored) | f | payload
    · exact hput (r := .ok (.error e)) rfl
    · refine (h.append hi stored).put hi ⟨hmap, hbusy, fun x hx => ?_⟩ (fun _ => .inl) fun _ => id
      obtain rfl := Option.some.inj hx
      exact .last
    · exact hput (r := .failed f) rfl
    · exact hput (r := .panicked payload) rfl
  · exact h

/-- A type that a caller has is referred to twice. -/
theorem isUsed_of_held (hx : x ∈ m.held) (hfilled : m.cell c = .filled x) : m.isUsed c = true := by
  have := List.count_pos_iff.mpr hx
  simp only [isUsed, hfilled]
  refine decide_eq_true ?_
  unfold typeCount
  omega

/-- A cell that is referred to once is referred to by no request. -/
theorem free_of_cellCount (hc : ¬ 1 < m.cellCount c) : ∀ f ∈ m.flights, f.stage.cell? ≠ some c := by
  have hzero : (m.flights.countP fun f => f.stage.cell? = some c) = 0 := by
    unfold cellCount at hc
    omega
  intro f hf hfc
  exact List.countP_eq_zero.mp hzero f hf (decide_eq_true hfc)

theorem purge (h : m.Sound) : m.purge.Sound := by
  unfold Machine.purge
  split
  · exact h
  · exact h.resweep nofun
  · split
    · exact h.resweep nofun
    · rename_i c hmap
      split
      · exact h.resweep nofun
      · rename_i hcount
        refine h.resweep fun key' rest' heq => ?_
        cases heq
        exact ⟨c, hmap, free_of_cellCount hcount⟩
  · rename_i key rest hsweep
    split
    · exact h.resweep nofun
    · rename_i hunused
      obtain ⟨c, hmap, hfree⟩ := h.alone key rest hsweep
      refine h.remove hmap hfree fun x hx hfilled => hunused ?_
      rw [hmap]
      exact isUsed_of_held hx hfilled

theorem step (h : m.Sound) (move : Move S) : (m.step move).Sound := by
  cases move with
  | call key => exact h.call key
  | advance i => exact h.advance i
  | generate i reply => exact h.generate i reply
  | lock keys =>
    unfold Machine.step
    dsimp only
    split
    · exact h
    · exact h.resweep nofun
  | purge => exact h.purge
  | share x =>
    unfold Machine.step
    dsimp only
    split
    · rename_i hx
      refine h.hold fun y hy => ?_
      rcases List.mem_cons.mp hy with rfl | hy
      · exact h.held y hx
      · exact h.held y hy
    · exact h
  | drop x => exact h.hold fun y hy => h.held y (List.mem_of_mem_erase hy)

/-- **Every run** keeps the invariant. -/
theorem run : ∀ (moves : List (Move S)) {m : Machine S}, m.Sound → (m.run moves).Sound
  | [], _, h => h
  | move :: moves, _, h => run moves (h.step move)

end Sound

end Machine

end Interpose.Concurrent
