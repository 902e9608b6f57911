import Interpose.Cache
import Mathlib.Data.List.Nodup

/-!
# The cells of a cache

A cache is looked at through the cell of a key. Every operation is described by what it does to the
cell of every key, so that nothing later opens the list of cells.

Results:
* `cell?_reserve`, `cell?_fill`, `cell?_purge`: the operations on cells.
* `lookupOrMake_found`, `lookupOrMake_made`, `lookupOrMake_refused`: the ways in which a lookup ends
  that does not unwind.
-/

namespace Interpose

variable {S : Type}

/-! ## Looking up -/

theorem lookup_cons_ite {α β : Type} [DecidableEq α] (k k' : α) (b : β) (l : List (α × β)) :
    ((k', b) :: l).lookup k = if k = k' then some b else l.lookup k := by
  by_cases h : k = k'
  · simp [h]
  · rw [List.lookup_cons, beq_eq_false_iff_ne.mpr h, if_neg h]

theorem isSome_lookup_iff {α β : Type} [DecidableEq α] (k : α) (l : List (α × β)) :
    (l.lookup k).isSome = true ↔ k ∈ l.map Prod.fst := by
  simp [List.lookup_isSome_iff]

/-- Among keys without repetition, what a test keeps is what it keeps of the value looked up. -/
theorem lookup_filter {α β : Type} [DecidableEq α] (keep : β → Bool) (k : α) :
    ∀ {l : List (α × β)}, (l.map Prod.fst).Nodup →
      (l.filter fun kb => keep kb.2).lookup k = (l.lookup k).filter keep
  | [], _ => rfl
  | (k', b) :: l, h => by
    obtain ⟨hnot, hnodup⟩ := List.nodup_cons.mp h
    have ih := lookup_filter keep k hnodup
    by_cases hk : k = k'
    · subst hk
      -- the key stands nowhere else, so nothing is found behind a dropped value
      have hrest : l.lookup k = none := by
        rw [← Option.not_isSome_iff_eq_none, isSome_lookup_iff]
        exact hnot
      cases hb : keep b <;> simp [hb, ih, hrest, Option.filter]
    · cases hb : keep b <;> simp [lookup_cons_ite, hb, ih, hk]

namespace Cache

variable (c : Cache S) (key other : Key)

/-- The keys that have a cell. -/
def keys : List Key := c.cells.map Prod.fst

theorem mem_keys_iff : key ∈ c.keys ↔ (c.cell? key).isSome = true :=
  (isSome_lookup_iff key c.cells).symm

theorem size_eq_keys : c.size = c.keys.length := (List.length_map _).symm

/-! ## The operations -/

theorem find?_eq_some_iff {stored : Stored S} :
    c.find? key = some stored ↔ c.cell? key = some (some stored) := by
  unfold find?
  cases c.cell? key <;> simp

theorem isSome_cell?_of_find? {stored : Stored S} (h : c.find? key = some stored) :
    (c.cell? key).isSome = true := by
  rw [(c.find?_eq_some_iff key).mp h]
  rfl

/-- A key that has a cell keeps it. -/
theorem reserve_of_isSome (h : (c.cell? key).isSome = true) : c.reserve key = c := if_pos h

theorem cell?_reserve :
    (c.reserve key).cell? other = (c.cell? other).or (if other = key then some none else none) := by
  unfold reserve
  split
  · rename_i h
    by_cases ho : other = key
    · subst ho
      obtain ⟨content, hcontent⟩ := Option.isSome_iff_exists.mp h
      simp [hcontent]
    · simp [ho]
  · unfold cell?
    rw [List.lookup_append]
    by_cases ho : other = key <;> simp [lookup_cons_ite, ho]

theorem cell?_fill (stored : Stored S) :
    (c.fill key stored).cell? other =
      (c.cell? other).map fun content => if other = key then some stored else content := by
  unfold fill cell?
  induction c.cells with
  | nil => rfl
  | cons kb cells ih =>
    obtain ⟨k, content⟩ := kb
    rw [List.map_cons, lookup_cons_ite]
    by_cases ho : other = k
    · subst ho
      by_cases hk : other = key <;> simp [hk]
    · by_cases hk : k = key
      · simp [hk, lookup_cons_ite, hk ▸ ho, ih]
      · simp [hk, lookup_cons_ite, ho, ih]

/-- An empty cell holds as much as none. -/
theorem find?_reserve : (c.reserve key).find? other = c.find? other := by
  unfold find?
  rw [cell?_reserve]
  by_cases ho : other = key <;> cases c.cell? other <;> simp [ho]

theorem isSome_cell?_reserve :
    ((c.reserve key).cell? other).isSome = (decide (other = key) || (c.cell? other).isSome) := by
  rw [cell?_reserve]
  by_cases ho : other = key <;> cases c.cell? other <;> simp [ho]

theorem isSome_cell?_fill (stored : Stored S) :
    ((c.fill key stored).cell? other).isSome = (c.cell? other).isSome := by
  rw [cell?_fill, Option.isSome_map]

theorem find?_fill_reserve (stored : Stored S) :
    ((c.reserve key).fill key stored).find? other =
      if other = key then some stored else c.find? other := by
  unfold find?
  rw [cell?_fill, cell?_reserve]
  by_cases ho : other = key <;> cases c.cell? other <;> simp [ho]

theorem cell?_purge (h : c.keys.Nodup) (live : List Nat) :
    (c.purge live).2.1.cell? key =
      (c.cell? key).filter fun content => content.any (Stored.inUse live) :=
  lookup_filter _ key h

/-- A purge removes a cell or leaves it as it is. -/
theorem cell?_purge_cases (h : c.keys.Nodup) (live : List Nat) :
    (c.purge live).2.1.cell? key = none ∨ (c.purge live).2.1.cell? key = c.cell? key := by
  rw [c.cell?_purge key h]
  cases c.cell? key with
  | none => exact .inl rfl
  | some content => by_cases hused : content.any (Stored.inUse live) <;> simp [hused]

/-- What a purge has kept, another one keeps. -/
theorem purge_purge (live : List Nat) :
    (c.purge live).2.1.purge live = (0, (c.purge live).2.1, []) := by
  have hkept : (c.purge live).2.1.kept live = (c.purge live).2.1.cells := by
    simp [kept, purge, List.filter_filter]
  rw [purge, hkept]
  simp [size]

@[simp]
theorem syntheses_reserve : (c.reserve key).syntheses = c.syntheses := by
  unfold reserve
  split <;> rfl

@[simp]
theorem failures_reserve : (c.reserve key).failures = c.failures := by
  unfold reserve
  split <;> rfl

@[simp]
theorem hits_reserve : (c.reserve key).hits = c.hits := by
  unfold reserve
  split <;> rfl

theorem keys_fill (stored : Stored S) : (c.fill key stored).keys = c.keys := by
  unfold fill keys
  rw [List.map_map]
  refine List.map_congr_left fun kb _ => ?_
  by_cases h : kb.1 = key <;> simp [h]

theorem nodup_reserve (h : c.keys.Nodup) : (c.reserve key).keys.Nodup := by
  unfold reserve
  split
  · exact h
  · rename_i hnone
    rw [← mem_keys_iff] at hnone
    show (List.map Prod.fst (c.cells ++ [(key, none)])).Nodup
    rw [List.map_append, List.map_singleton]
    exact List.Nodup.append h (List.nodup_singleton key) (List.disjoint_singleton.mpr hnone)

theorem nodup_purge (h : c.keys.Nodup) (live : List Nat) : (c.purge live).2.1.keys.Nodup :=
  (List.filter_sublist.map Prod.fst).nodup h

/-! ## Looking up and filling -/

section Lookup

variable {c key} {W : Type} {make : W → Reply (Except ProxyError (Stored S)) × W × List Event}
  {world world' : W} {events : List Event} {stored : Stored S}

/-- What a filled cell holds is the answer, and nothing is made. -/
theorem lookupOrMake_found (h : c.find? key = some stored) :
    c.lookupOrMake key make world =
      ⟨.ok (.ok stored), { c with hits := c.hits + 1 }, world, [.cacheHit key.target.name]⟩ := by
  simp only [lookupOrMake, c.reserve_of_isSome key (c.isSome_cell?_of_find? key h), h]

/-- What is made fills the cell. -/
theorem lookupOrMake_made (h : c.find? key = none)
    (hmake : make world = (.ok (.ok stored), world', events)) :
    c.lookupOrMake key make world =
      ⟨.ok (.ok stored), { (c.reserve key).fill key stored with syntheses := c.syntheses + 1 },
        world', .cacheMiss key.target.name :: events⟩ := by
  simp only [lookupOrMake, find?_reserve, h, hmake, syntheses_reserve]

/-- An error leaves the cell empty. -/
theorem lookupOrMake_refused {e : ProxyError} (h : c.find? key = none)
    (hmake : make world = (.ok (.error e), world', events)) :
    c.lookupOrMake key make world =
      ⟨.ok (.error e), { c.reserve key with failures := c.failures + 1 }, world',
        .cacheMiss key.target.name :: events⟩ := by
  simp only [lookupOrMake, find?_reserve, h, hmake, failures_reserve]

/-- What unwinds leaves the cell empty, and nothing is counted. -/
theorem lookupOrMake_panicked {p : Payload} (h : c.find? key = none)
    (hmake : make world = (.panicked p, world', events)) :
    c.lookupOrMake key make world =
      ⟨.panicked p, c.reserve key, world', .cacheMiss key.target.name :: events⟩ := by
  simp only [lookupOrMake, find?_reserve, h, hmake]

theorem lookupOrMake_failed {f : Failure} (h : c.find? key = none)
    (hmake : make world = (.failed f, world', events)) :
    c.lookupOrMake key make world =
      ⟨.failed f, c.reserve key, world', .cacheMiss key.target.name :: events⟩ := by
  simp only [lookupOrMake, find?_reserve, h, hmake]

end Lookup

end Cache

end Interpose
