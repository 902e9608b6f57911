import Interpose.Proofs.Cache.Answer
import Mathlib.Logic.Function.Basic

/-!
# The caches of a process

A process has any number of caches, and all of them draw their numbers from one counter. What is
true of everything that caches hold stays true however cells are reserved and removed; only what is
put into a cell has to be looked at.

Results:
* `Cache.Holds`, with one lemma per operation on cells.
* `Cache.Holds.proxyType`: a request puts in only what it has generated.
-/

namespace Interpose

variable {κ S : Type}

/-! ## What one cache holds -/

namespace Cache

/-- The content of every filled cell has the property. -/
def Holds (P : Key → Stored S → Prop) (c : Cache S) : Prop :=
  ∀ key stored, (key, some stored) ∈ c.cells → P key stored

namespace Holds

variable {P Q : Key → Stored S → Prop} {c : Cache S} {key : Key} {stored : Stored S}

theorem empty : (Cache.empty : Cache S).Holds P := fun _ _ h => nomatch h

theorem mono (h : c.Holds P) (hPQ : ∀ key stored, P key stored → Q key stored) : c.Holds Q :=
  fun key stored hmem => hPQ key stored (h key stored hmem)

theorem find? (h : c.Holds P) (hfound : c.find? key = some stored) : P key stored := by
  have hcell : c.cells.lookup key = some (some stored) := (c.find?_eq_some_iff key).mp hfound
  obtain ⟨before, after, hsplit, -⟩ := List.lookup_eq_some_iff.mp hcell
  exact h key stored (by simp [hsplit])

theorem reserve (h : c.Holds P) (key : Key) : (c.reserve key).Holds P := by
  unfold Cache.reserve
  split
  · exact h
  · intro k stored hmem
    rcases List.mem_append.mp hmem with hmem | hmem
    · exact h k stored hmem
    · simp at hmem

theorem fill (h : c.Holds P) (hstored : P key stored) : (c.fill key stored).Holds P := by
  intro k content hmem
  obtain ⟨kc, hkc, heq⟩ := List.mem_map.mp hmem
  by_cases hkey : kc.1 = key
  · rw [if_pos hkey] at heq
    cases heq
    exact hstored
  · rw [if_neg hkey] at heq
    exact h k content (heq ▸ hkc)

theorem purge (h : c.Holds P) (live : List Nat) : (c.purge live).2.1.Holds P :=
  fun key stored hmem => h key stored (List.mem_filter.mp hmem).1

theorem clear : c.clear.Holds P := fun _ _ h => nomatch h

/-- What is made for a key is all that a lookup puts in; it also counts, which no cell shows. -/
theorem lookupOrMake {W : Type} {make : W → Reply (Except ProxyError (Stored S)) × W × List Event}
    {world : W} (h : c.Holds P) (hmake : c.find? key = none →
      ∀ stored, (make world).1 = .ok (.ok stored) → P key stored) :
    (c.lookupOrMake key make world).cache.Holds P := by
  cases hfound : c.find? key with
  | some stored =>
    rw [lookupOrMake_found hfound]
    exact h
  | none =>
    obtain ⟨made, world', events, hmade⟩ :
        ∃ made world' events, make world = (made, world', events) := ⟨_, _, _, rfl⟩
    have hmake := hmade ▸ hmake hfound
    match made, hmake, hmade with
    | .ok (.ok stored), hmake, hmade =>
      rw [lookupOrMake_made hfound hmade]
      exact (h.reserve key).fill (hmake stored rfl)
    | .ok (.error e), _, hmade =>
      rw [lookupOrMake_refused hfound hmade]
      exact h.reserve key
    | .failed f, _, hmade =>
      rw [lookupOrMake_failed hfound hmade]
      exact h.reserve key
    | .panicked p, _, hmade =>
      rw [lookupOrMake_panicked hfound hmade]
      exact h.reserve key

/-- A request puts in only the type that it has generated. -/
theorem proxyType {r : Request S} {m : Mint} (h : c.Holds P) (hmade : c.find? r.key = none →
      ∀ p, r.generated m.next = .ok p → P r.key (.proxy p)) :
    (r.proxyType c m).cache.Holds P := by
  refine h.lookupOrMake fun hnone stored hstored => ?_
  cases hp : r.generated m.next with
  | error e =>
    rw [Request.generate_of_error hp] at hstored
    cases hstored
  | ok p =>
    rw [Request.generate_of_ok hp] at hstored
    cases hstored
    exact hmade hnone p hp

end Holds

end Cache

/-! ## All caches -/

/-- The caches of a process, and what generating types draws on. -/
structure Store (κ S : Type) where
  caches : κ → Cache S
  mint : Mint

namespace Store

/-- No cache has been used. -/
def start (m : Mint) : Store κ S := ⟨fun _ => .empty, m⟩

/-- The content of every filled cell of every cache has the property. -/
def Holds (P : Key → Stored S → Prop) (w : Store κ S) : Prop := ∀ c, (w.caches c).Holds P

section

variable [DecidableEq κ]

/-- One cache and the counter go on. -/
def put (w : Store κ S) (c : κ) (cache : Cache S) (m : Mint) : Store κ S :=
  ⟨Function.update w.caches c cache, m⟩

/-- Removes what is in use nowhere else from one cache, given the numbers of the types in use. -/
def purge (w : Store κ S) (c : κ) (live : List Nat) : Store κ S :=
  w.put c ((w.caches c).purge live).2.1 w.mint

/-- Empties one cache. -/
def clear (w : Store κ S) (c : κ) : Store κ S := w.put c (w.caches c).clear w.mint

end

namespace Holds

variable {P Q : Key → Stored S → Prop} {w : Store κ S} {c : κ}

theorem start (m : Mint) : (Store.start m : Store κ S).Holds P := fun _ => .empty

theorem mono (h : w.Holds P) (hPQ : ∀ key stored, P key stored → Q key stored) : w.Holds Q :=
  fun c => (h c).mono hPQ

variable [DecidableEq κ]

theorem put (h : w.Holds P) {cache : Cache S} (hc : cache.Holds P) (m : Mint) :
    (w.put c cache m).Holds P := by
  intro c'
  show (Function.update w.caches c cache c').Holds P
  by_cases hne : c' = c
  · rw [hne, Function.update_self]
    exact hc
  · rw [Function.update_of_ne hne]
    exact h c'

theorem purge (h : w.Holds P) (live : List Nat) : (w.purge c live).Holds P :=
  h.put ((h c).purge live) _

theorem clear (h : w.Holds P) : (w.clear c).Holds P := h.put .clear _

end Holds

end Store

end Interpose
