import Interpose.ProxyType

/-!
# The cache of generated types

Model of `veneer_engine::cache` (`ProxyKey`, `ProxyCache`: `get_or_insert_with`, `contains`,
`purge_unused`, `clear`, `len`, `stats`).

Generated types are kept by key: the target type, the type of interceptor and the options. A key
that was requested has a cell; the cell is filled by the first synthesis that succeeds and stays
empty while none has.

* `Cache.lookupOrMake` : the filled cell, or what `make` produces, which then fills the cell.
* `Cache.purge` : removes the cells that are empty or whose type is in use nowhere else.
-/

namespace Interpose

/-- What generated types are kept by. -/
structure Key where
  /-- The target type. -/
  target : Tag
  /-- The type of interceptor. -/
  interceptor : Tag
  options : Options
deriving DecidableEq, Repr

/-- The content of a filled cell. -/
inductive Stored (S : Type) where
  /-- A generated type. -/
  | proxy (p : ProxyType S)
  /-- Something that a caller made by hand. -/
  | foreign (n : Nat)

/-- The content as a generated type of the target for the type of interceptor, if it is one. -/
def Stored.proxy? {S : Type} (target interceptor : Tag) : Stored S → Option (ProxyType S)
  | .proxy p => if p.type = target && p.interceptor = interceptor then some p else none
  | .foreign _ => none

/-- The counts that a cache keeps. They are natural numbers where the program counts in atomics of 64
bits, so runs of fewer than `2 ^ 64` requests are meant. -/
structure Stats where
  /-- Requests that were answered from the cache. -/
  hits : Nat
  /-- Syntheses that succeeded. -/
  syntheses : Nat
  /-- Syntheses that failed. -/
  failures : Nat
  /-- Keys with a cell. -/
  entries : Nat
deriving DecidableEq, Repr

/-- A cache of generated types. Its counts are those of `Stats`, for runs of fewer than `2 ^ 64`
requests. -/
structure Cache (S : Type) where
  /-- The cells by key, empty or filled. -/
  cells : List (Key × Option (Stored S))
  hits : Nat
  syntheses : Nat
  failures : Nat

variable {S : Type}

namespace Cache

/-- The cache without cells. -/
def empty : Cache S := ⟨[], 0, 0, 0⟩

/-- The cell of a key. -/
def cell? (c : Cache S) (key : Key) : Option (Option (Stored S)) := c.cells.lookup key

/-- The content of the filled cell of a key. -/
def find? (c : Cache S) (key : Key) : Option (Stored S) := (c.cell? key).join

/-- The number of cells. -/
def size (c : Cache S) : Nat := c.cells.length

/-- Are there no cells? -/
def isEmpty (c : Cache S) : Bool := c.cells.isEmpty

/-- Gives the key a cell if it has none. -/
def reserve (c : Cache S) (key : Key) : Cache S :=
  if (c.cell? key).isSome then c else { c with cells := c.cells ++ [(key, none)] }

/-- Fills the cell of a key. -/
def fill (c : Cache S) (key : Key) (stored : Stored S) : Cache S :=
  { c with cells := c.cells.map fun kc => if kc.1 = key then (key, some stored) else kc }

/-- How a request for a key ends, with what happened on the way. -/
structure Lookup (S W : Type) where
  reply : Reply (Except ProxyError (Stored S))
  cache : Cache S
  /-- The state that `make` passes along. -/
  world : W
  events : List Event

/-- The content of the cell of a key. An empty cell is filled by `make`; if `make` fails the cell
stays empty and the failure is counted, and if it panics nothing is counted. -/
def lookupOrMake {W : Type} (c : Cache S) (key : Key)
    (make : W → Reply (Except ProxyError (Stored S)) × W × List Event) (world : W) :
    Lookup S W :=
  let c := c.reserve key
  match c.find? key with
  | some stored =>
    ⟨.ok (.ok stored), { c with hits := c.hits + 1 }, world, [.cacheHit key.target.name]⟩
  | none =>
    let (made, world, events) := make world
    let events := .cacheMiss key.target.name :: events
    match made with
    | .ok (.ok stored) =>
      ⟨.ok (.ok stored), { c.fill key stored with syntheses := c.syntheses + 1 }, world, events⟩
    | .ok (.error e) => ⟨.ok (.error e), { c with failures := c.failures + 1 }, world, events⟩
    | .failed f => ⟨.failed f, c, world, events⟩
    | .panicked p => ⟨.panicked p, c, world, events⟩

/-- Has the key a filled cell? -/
def contains (c : Cache S) (key : Key) : Bool := (c.find? key).isSome

/-- Is the content in use outside the cache, given the numbers of the types in use? -/
def Stored.inUse (live : List Nat) : Stored S → Bool
  | .proxy p => live.contains p.serial
  | .foreign _ => false

/-- The cells that a purge keeps. -/
def kept (c : Cache S) (live : List Nat) : List (Key × Option (Stored S)) :=
  c.cells.filter fun kc => kc.2.any (Stored.inUse live)

/-- Removes the cells that are empty or whose content is in use nowhere else; the number of
removed cells and, if there are any, the event. -/
def purge (c : Cache S) (live : List Nat) : Nat × Cache S × List Event :=
  let cells := c.kept live
  let removed := c.size - cells.length
  (removed, { c with cells }, if 0 < removed then [.purged removed cells.length] else [])

/-- Removes all cells. -/
def clear (c : Cache S) : Cache S := { c with cells := [] }

/-- The counts. -/
def stats (c : Cache S) : Stats := ⟨c.hits, c.syntheses, c.failures, c.size⟩

end Cache

end Interpose
