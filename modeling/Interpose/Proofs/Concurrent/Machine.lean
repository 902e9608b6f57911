import Interpose.Cache
import Mathlib.Logic.Function.Basic

/-!
# A cache with many threads

Model of `get_or_insert_with` and `purge_unused` of `veneer_engine::cache`, step by step.

Requests and purges of one cache run at the same time, one atomic step of one of them after the
other. The map from keys to cells is behind a lock, which a request holds for the one step in which
it fetches its cell and a purge holds from its first step to its last. Everything else goes on in
between.

A request for a key
1. fetches the cell of the key, or gives the key a new one, and keeps a reference to the cell;
2. reads the cell, and has found its type if the cell is filled;
3. else enters the cell when no other request is inside, or finds the type if the cell has been
   filled meanwhile;
4. inside, synthesizes a type, counts how that ended, and leaves the cell filled or empty;
5. counts a hit if it found its type, takes a reference to the type, lets go of the cell and
   returns.

A purge looks at one key after the other: first how often the cell is referred to, then, if the map
alone refers to it, how often its type is. In between other steps may be taken.

* Types are known by their place among the successful syntheses, so no two have one number.
* A move that cannot be made (a purge holds the lock, another request is inside) changes nothing.
* A synthesis may also unwind; then nothing is counted and nothing is returned.
-/

namespace Interpose.Concurrent

variable {S : Type}

/-! ## Requests -/

/-- What a cell holds. -/
inductive Content where
  | empty
  /-- The request with the number is inside. -/
  | busy (request : Nat)
  | filled (type : Nat)
deriving DecidableEq, Repr

/-- How a synthesis or a request ends. -/
abbrev Result := Reply (Except ProxyError Nat)

/-- The type, if there is one. -/
def Result.type? : Result → Option Nat
  | .ok (.ok x) => some x
  | _ => none

/-- Did it end without unwinding? -/
def Result.isAnswer : Result → Bool
  | .ok _ => true
  | _ => false

/-- Where a request stands that refers to a cell. -/
inductive Point where
  | fetched
  /-- The cell was read and not filled. -/
  | missed
  /-- Inside the cell. -/
  | inside
  /-- Inside the cell, after the synthesis. -/
  | generated (result : Result)
  /-- Inside the cell, after counting. -/
  | tallied (result : Result)
  /-- The cell is filled and the hit not counted yet. -/
  | found (type : Nat)
  /-- The cell is filled and all counting done. -/
  | counted (type : Nat)
  /-- With a reference to the type of its own. -/
  | cloned (type : Nat)
  /-- There is no type to return. -/
  | leaving (result : Result)

/-- Where a request stands. -/
inductive Stage where
  | calling
  | working (cell : Nat) (point : Point)
  | returned (result : Result)

/-- A request in flight, or one that has returned. -/
structure Flight where
  key : Key
  stage : Stage

namespace Point

/-- Is the request inside the cell? -/
def runs : Point → Bool
  | inside | generated _ | tallied _ => true
  | _ => false

/-- The type that the request is about to return. -/
def inHand : Point → Option Nat
  | generated r | tallied r => r.type?
  | found x | counted x | cloned x => some x
  | _ => none

/-- The type that the request has a reference to of its own. -/
def owns : Point → Option Nat
  | generated r | tallied r => r.type?
  | cloned x => some x
  | _ => none

/-- Was the request counted? -/
def isCounted : Point → Bool
  | tallied r | leaving r => r.isAnswer
  | counted _ | cloned _ => true
  | _ => false

end Point

namespace Stage

/-- The cell that the request refers to. -/
def cell? : Stage → Option Nat
  | working c _ => some c
  | _ => none

/-- The cell that the request is inside. -/
def runs? : Stage → Option Nat
  | working c p => if p.runs then some c else none
  | _ => none

/-- The type that the request is about to return. -/
def inHand : Stage → Option Nat
  | working _ p => p.inHand
  | _ => none

/-- The type that the request has a reference to of its own. -/
def owns : Stage → Option Nat
  | working _ p => p.owns
  | _ => none

/-- Was the request counted? -/
def isCounted : Stage → Bool
  | calling => false
  | working _ p => p.isCounted
  | returned r => r.isAnswer

/-- Has the request ended? -/
def isReturned : Stage → Bool
  | returned _ => true
  | _ => false

/-- Has the request ended with a type or an error? -/
def isAnswered : Stage → Bool
  | returned r => r.isAnswer
  | _ => false

end Stage

/-! ## The machine -/

/-- A purge that holds the lock. -/
structure Sweep where
  /-- The keys that are still to be looked at. -/
  left : List Key
  /-- Does the map alone refer to the cell of the next of them? -/
  alone : Bool

/-- The cache and all that use it. The counts are those of `Stats`. -/
structure Machine (S : Type) where
  map : Key → Option Nat
  cell : Nat → Content
  /-- The number of the next cell. -/
  cells : Nat
  /-- The successful syntheses, in order. -/
  made : List (Key × Stored S)
  flights : List Flight
  /-- The references to types that callers have. -/
  held : List Nat
  sweep : Option Sweep
  hits : Nat
  syntheses : Nat
  failures : Nat

namespace Machine

/-- The machine before the first request. -/
def start : Machine S := ⟨fun _ => none, fun _ => .empty, 0, [], [], [], none, 0, 0, 0⟩

/-- How often a cell of the map is referred to: by the map and by requests. -/
def cellCount (m : Machine S) (c : Nat) : Nat :=
  1 + m.flights.countP fun f => f.stage.cell? = some c

/-- How often a type in a cell is referred to: by the cell, by callers and by requests. -/
def typeCount (m : Machine S) (x : Nat) : Nat :=
  1 + m.held.count x + m.flights.countP fun f => f.stage.owns = some x

/-- Is the cell filled with a type that is referred to elsewhere? -/
def isUsed (m : Machine S) (c : Nat) : Bool :=
  match m.cell c with
  | .filled x => decide (1 < m.typeCount x)
  | _ => false

/-- Moves a request on. -/
def put (m : Machine S) (i : Nat) (key : Key) (stage : Stage) : Machine S :=
  { m with flights := m.flights.set i ⟨key, stage⟩ }

/-- Changes what a cell holds. -/
def fill (m : Machine S) (c : Nat) (content : Content) : Machine S :=
  { m with cell := Function.update m.cell c content }

/-- Gives a key a new cell. -/
def insert (m : Machine S) (key : Key) : Machine S :=
  { m with
    map := Function.update m.map key (some m.cells)
    cell := Function.update m.cell m.cells .empty
    cells := m.cells + 1 }

/-- Counts how a synthesis ended. -/
def tally (m : Machine S) : Result → Machine S
  | .ok (.ok _) => { m with syntheses := m.syntheses + 1 }
  | .ok (.error _) => { m with failures := m.failures + 1 }
  | _ => m

/-- A request fetches the cell of its key. -/
def fetch (m : Machine S) (i : Nat) (key : Key) : Machine S :=
  match m.sweep, m.map key with
  | some _, _ => m
  | none, some c => m.put i key (.working c .fetched)
  | none, none => (m.insert key).put i key (.working m.cells .fetched)

/-- A request with a cell takes its next step. -/
def work (m : Machine S) (i : Nat) (key : Key) (c : Nat) : Point → Machine S
  | .fetched =>
    match m.cell c with
    | .filled x => m.put i key (.working c (.found x))
    | _ => m.put i key (.working c .missed)
  | .missed =>
    match m.cell c with
    | .filled x => m.put i key (.working c (.found x))
    | .busy _ => m
    | .empty => (m.fill c (.busy i)).put i key (.working c .inside)
  | .inside => m
  | .generated r => (m.tally r).put i key (.working c (.tallied r))
  | .tallied r =>
    match r.type? with
    | some x => (m.fill c (.filled x)).put i key (.working c (.counted x))
    | none => (m.fill c .empty).put i key (.working c (.leaving r))
  | .found x => { m with hits := m.hits + 1 }.put i key (.working c (.counted x))
  | .counted x => m.put i key (.working c (.cloned x))
  | .cloned x => { m with held := x :: m.held }.put i key (.returned (.ok (.ok x)))
  | .leaving r => m.put i key (.returned r)

/-- A request takes its next step. -/
def advance (m : Machine S) (i : Nat) : Machine S :=
  match m.flights[i]? with
  | some ⟨key, .calling⟩ => m.fetch i key
  | some ⟨key, .working c p⟩ => m.work i key c p
  | _ => m

/-- Notes how a synthesis for the key ended; a type gets its number. -/
def record (m : Machine S) (key : Key) : Reply (Except ProxyError (Stored S)) → Machine S × Result
  | .ok (.ok stored) => ({ m with made := m.made ++ [(key, stored)] }, .ok (.ok m.made.length))
  | .ok (.error e) => (m, .ok (.error e))
  | .failed f => (m, .failed f)
  | .panicked p => (m, .panicked p)

/-- The synthesis of the request that is inside a cell ends. -/
def generate (m : Machine S) (i : Nat) (reply : Reply (Except ProxyError (Stored S))) :
    Machine S :=
  match m.flights[i]? with
  | some ⟨key, .working c .inside⟩ =>
    let (m, r) := m.record key reply
    m.put i key (.working c (.generated r))
  | _ => m

/-- The purge that holds the lock reads the next count, or gives the lock back. -/
def purge (m : Machine S) : Machine S :=
  match m.sweep with
  | none => m
  | some ⟨[], _⟩ => { m with sweep := none }
  | some ⟨key :: rest, false⟩ =>
    match m.map key with
    | none => { m with sweep := some ⟨rest, false⟩ }
    | some c =>
      if 1 < m.cellCount c then { m with sweep := some ⟨rest, false⟩ }
      else { m with sweep := some ⟨key :: rest, true⟩ }
  | some ⟨key :: rest, true⟩ =>
    if (m.map key).any m.isUsed then { m with sweep := some ⟨rest, false⟩ }
    else { m with map := Function.update m.map key none, sweep := some ⟨rest, false⟩ }

end Machine

/-- What happens next. -/
inductive Move (S : Type) where
  /-- A request for the key comes in. -/
  | call (key : Key)
  /-- The request with the number takes its next step. -/
  | advance (request : Nat)
  /-- The synthesis of the request with the number ends so. -/
  | generate (request : Nat) (reply : Reply (Except ProxyError (Stored S)))
  /-- A purge takes the lock, to look at the keys in this order. -/
  | lock (keys : List Key)
  /-- The purge takes its next step. -/
  | purge
  /-- A caller copies its reference to the type. -/
  | share (type : Nat)
  /-- A caller drops its reference to the type. -/
  | drop (type : Nat)

namespace Machine

/-- Makes a move. -/
def step (m : Machine S) : Move S → Machine S
  | .call key => { m with flights := m.flights ++ [⟨key, .calling⟩] }
  | .advance i => m.advance i
  | .generate i reply => m.generate i reply
  | .lock keys => if m.sweep.isSome then m else { m with sweep := some ⟨keys, false⟩ }
  | .purge => m.purge
  | .share x => if x ∈ m.held then { m with held := x :: m.held } else m
  | .drop x => { m with held := m.held.erase x }

/-- Makes one move after the other. -/
def run (m : Machine S) (moves : List (Move S)) : Machine S := moves.foldl step m

theorem run_cons (m : Machine S) (move : Move S) (moves : List (Move S)) :
    m.run (move :: moves) = (m.step move).run moves := rfl

end Machine

end Interpose.Concurrent
