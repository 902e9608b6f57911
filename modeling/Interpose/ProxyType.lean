import Interpose.Surface

/-!
# Generated proxy types

Model of `veneer_engine::synth` (`synthesize`, `GeneratedProxyType`, `Route`, `RouteEntry`).

Synthesis turns a target into a route table with one entry per declared method. Intercepted
entries run the dispatch protocol, every other entry calls the original method or cannot be
called at all. An entry holds the original implementation that was declared, so a proxy never
calls itself.

Synthesis passes over the declaration three times. The first pass gives every method the route
that it has on its own. The second goes through the slots in order and routes their methods to
them; a slot whose name an earlier slot has collapses into the earlier one if the two have one
shape, and ends the synthesis otherwise. The third builds the entries and the table of names.

* `Target.assign`, `Target.assignAll` : the second pass, by slot.
* `Target.synthesize` : the generated type.
* `ProxyType.routeOf?`, `ProxyType.indexOf?` : the views by name.
-/

namespace Interpose

open Text

/-- How calls of a declared method are handled. -/
inductive Route where
  /-- By the interception protocol; the number is the slot. -/
  | intercept (slot : Nat)
  /-- By calling the original. -/
  | direct
  /-- Not at all: there is no implementation on values, or no instance. -/
  | unavailable
deriving DecidableEq, Repr

/-- Is the route an intercepted one? -/
def Route.isIntercept : Route → Bool
  | .intercept _ => true
  | _ => false

/-- The slot of an intercepted route. -/
def Route.slot? : Route → Option Nat
  | .intercept slot => some slot
  | _ => none

/-- A table that gives a name at most one position. -/
structure NameTable where
  rows : List (String × Nat)
deriving DecidableEq, Repr

namespace NameTable

/-- The table without names. -/
def empty : NameTable := ⟨[]⟩

/-- The position of the name. -/
def get? (t : NameTable) (name : String) : Option Nat := t.rows.lookup name

/-- Gives the name a position unless it has one. -/
def offer (t : NameTable) (name : String) (position : Nat) : NameTable :=
  if (t.get? name).isSome then t else ⟨t.rows ++ [(name, position)]⟩

end NameTable

/-- A row of the route table. -/
structure Entry (S : Type) where
  signature : Signature
  /-- The implementation that a call runs. -/
  original : Option (Original S)
  route : Route

/-- A generated proxy type. It never changes after synthesis. -/
structure ProxyType (S : Type) where
  /-- The number of the synthesis, which tells generated types apart. -/
  serial : Nat
  /-- The name: that of the target, then the number. -/
  name : String
  /-- The target type. -/
  type : Tag
  /-- The qualified name of the target. -/
  target : String
  /-- The type of interceptor that the type was generated for. -/
  interceptor : Tag
  constructors : List (Constructor S)
  /-- One row per declared method, in declaration order. -/
  entries : List (Entry S)
  /-- The first callable method of every name. -/
  positions : NameTable
  /-- The number of intercepted slots. -/
  slotCount : Nat
  /-- The options that the type was generated with. -/
  options : Options

variable {S : Type}

/-- The route that a method has when no slot takes it. -/
def Method.ownRoute (m : Method S) : Route :=
  if m.original.isSome && !m.signature.isStatic then .direct else .unavailable

/-- Where the pass over the slots stands. -/
structure Assignment where
  /-- A route per declared method. -/
  routes : List Route
  /-- The first slot of every name so far. -/
  firsts : NameTable
  /-- The number of slots so far that are the first of their name. -/
  count : Nat

namespace Target

/-- Where the pass over the slots starts. -/
def start (t : Target S) : Assignment := ⟨t.surface.methods.map Method.ownRoute, .empty, 0⟩

/-- How a slot disagrees with the slot at `first`, if it does. -/
def conflict? (t : Target S) (first : Nat) (s : Slot S) : Option String :=
  match t.slots[first]? with
  | some f =>
    if f.signature.sameShape s.signature then none
    else some ("conflicting signatures `" ++ f.signature.text ++ "` and `" ++
      s.signature.text ++ "`")
  | none => none

/-- Why the slot cannot be generated, if it cannot: its types, then its implementation, then a
disagreement with the first slot of its name. -/
def slotFault? (t : Target S) (a : Assignment) (s : Slot S) : Option String :=
  match s.signature.unrepresentableReason? with
  | some reason => some reason
  | none =>
    if s.method.original.isNone then some "no original method registered"
    else (a.firsts.get? s.signature.name).bind fun first => t.conflict? first s

/-- Routes the method of the slot at position `k`: to the first slot of its name, which is the
slot itself if there is none before it. -/
def assign (t : Target S) (a : Assignment) (k : Nat) (s : Slot S) :
    Except ProxyError Assignment :=
  match t.slotFault? a s with
  | some reason => .error (.generation t.surface.qualified s.signature.name reason)
  | none =>
    match a.firsts.get? s.signature.name with
    | some first => .ok { a with routes := a.routes.set s.index (.intercept first) }
    | none =>
      .ok ⟨a.routes.set s.index (.intercept k), a.firsts.offer s.signature.name k, a.count + 1⟩

/-- Routes the methods of slots in order, the first of them at position `k`. -/
def assignAll (t : Target S) : List (Slot S) → Nat → Assignment → Except ProxyError Assignment
  | [], _, a => .ok a
  | s :: rest, k, a => (t.assign a k s).bind (t.assignAll rest (k + 1))

/-- The row of a declared method. Methods that share a slot run the slot's implementation. -/
def entry (t : Target S) (m : Method S) (route : Route) : Entry S :=
  let original :=
    match route with
    | .intercept slot => t.slots[slot]?.bind fun s => s.method.original
    | _ => m.original
  ⟨m.signature, original, route⟩

/-- The route table. -/
def entries (t : Target S) (routes : List Route) : List (Entry S) :=
  (t.surface.methods.zip routes).map fun mr => t.entry mr.1 mr.2

end Target

/-- The table of names with the row at position `i` added: a name keeps its first callable row. -/
def Entry.enlist (names : NameTable) (ei : Entry S × Nat) : NameTable :=
  if ei.1.route = .unavailable then names else names.offer ei.1.signature.name ei.2

/-- The first callable row of every name. -/
def Entry.positions (entries : List (Entry S)) : NameTable :=
  entries.zipIdx.foldl Entry.enlist .empty

/-- Generates the proxy type with the given number for interceptors of the given type. -/
def Target.synthesize (t : Target S) (interceptor : Tag) (options : Options) (serial : Nat) :
    Except ProxyError (ProxyType S) :=
  (t.assignAll t.slots 0 t.start).map fun a =>
    let entries := t.entries a.routes
    { serial
      name := s!"{t.surface.simple}$$Proxy$${serial}"
      type := t.surface.type
      target := t.surface.qualified
      interceptor
      constructors := t.surface.constructors
      entries
      positions := Entry.positions entries
      slotCount := a.count
      options }

namespace ProxyType

/-- The signatures of the intercepted methods, in declaration order. -/
def intercepted (p : ProxyType S) : List Signature :=
  (p.entries.filter fun e => e.route.isIntercept).map (·.signature)

/-- The route of the first declared method with the name. -/
def routeOf? (p : ProxyType S) (name : String) : Option Route :=
  (p.entries.find? fun e => e.signature.name = name).map (·.route)

/-- Are calls of the name intercepted? -/
def isIntercepted (p : ProxyType S) (name : String) : Bool :=
  match p.routeOf? name with
  | some route => route.isIntercept
  | none => false

/-- The position of the first callable method with the name. -/
def indexOf? (p : ProxyType S) (name : String) : Option Nat := p.positions.get? name

/-- The signature of the first callable method with the name. -/
def method? (p : ProxyType S) (name : String) : Option Signature :=
  (p.indexOf? name).bind fun i => p.entries[i]?.map (·.signature)

/-- The number of methods that are called directly. -/
def directCount (p : ProxyType S) : Nat :=
  (p.entries.filter fun e => e.route = .direct).length

/-- The event that reports the synthesis. -/
def synthesisEvent (p : ProxyType S) : Event :=
  .synthesized p.name p.target p.interceptor.name p.slotCount p.directCount

/-- The reported form. -/
def layout (p : ProxyType S) : Layout :=
  .closed "GeneratedProxyType"
    [("name", .quoted p.name),
     ("target", .quoted p.target),
     ("interceptor", .quoted p.interceptor.name),
     ("slots", .ofNat p.slotCount)]

end ProxyType

end Interpose
