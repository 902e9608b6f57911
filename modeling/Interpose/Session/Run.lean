import Interpose.Bound
import Interpose.Session.Command
import Interpose.Session.Register

/-!
# Running a session

Model of a caller of `veneer_engine::enhancer` (`proxy_type`, `create`, `decorate`,
`create_bypassing_constructors`, `new_proxy`) and of the operations that `Interpose.Session.Command`
lists.

A session keeps caches, generated types and instances by name and carries out commands on them,
one after the other. Every command gives an output and the log entries that it caused.

* `Session.carryOut` : one command.
* `Session.run` : all commands in order.
-/

namespace Interpose.Session

open Interpose

/-- Which interceptor object an instance is bound to. -/
inductive Binding where
  /-- The object that the session has under the name. -/
  | named (name : String)
  /-- An object of its own, made from what the session has under the name. -/
  | own (number : Nat) (name : String)
deriving DecidableEq, Repr

/-- The name from which the object was made. -/
def Binding.source : Binding → String
  | .named name | .own _ name => name

/-- The name under which the session has the object, empty for one of its own. -/
def Binding.name : Binding → String
  | .named name => name
  | .own _ _ => ""

/-- The names of the host types that a session works on. -/
structure TypeNames where
  target : Nat → String
  interceptor : Kind → String

/-- What a session works on. -/
structure Setup where
  names : TypeNames
  types : List TypeScript
  policies : Register String Policy
  /-- Are log events of the library kept? -/
  traced : Bool

/-- The state of a session. -/
structure World where
  caches : Register (Option String) (Cache Scripted)
  handles : Register String (ProxyType Scripted)
  instances : Register String (Bound Binding Scripted)
  /-- The hook calls that each interceptor object has seen. -/
  calls : Register Binding Calls
  mint : Mint
  /-- The number of interceptor objects made for one instance. -/
  own : Nat

/-- The state in which a session starts. -/
def World.start : World := ⟨.empty, .empty, .empty, .empty, ⟨0, []⟩, 0⟩

/-- The number of an interceptor type. -/
def Kind.key : Kind → Nat
  | .pass => 0
  | .fixed => 1
  | .script => 2
  | .hooks => 3
  | .boxed => 4
  | .arced => 5

namespace Setup

/-- The identity of a target type. -/
def targetTag (s : Setup) (type : Nat) : Tag := ⟨type, s.names.target type⟩

/-- The identity of an interceptor type. -/
def interceptorTag (s : Setup) (kind : Kind) : Tag := ⟨kind.key, s.names.interceptor kind⟩

/-- The request for a place, if its type exists. -/
def request? (s : Setup) (at_ : Place) : Option (Request Scripted) :=
  s.types[at_.type]?.map fun script =>
    ⟨script.surface (s.targetTag at_.type), s.interceptorTag at_.kind, at_.options⟩

/-- The entries that log events leave. -/
def traced? (s : Setup) (events : List Event) : List Entry :=
  if s.traced then events.map .event else []

/-- The entries that a call leaves: those of logging hooks, and log events. -/
def entries (s : Setup) (policy : Policy) (icp : String) (type : Tag)
    (steps : List (Step Scripted)) : List Entry :=
  steps.flatMap fun
    | .before call _ => if policy.logs .before then [.before icp type call] else []
    | .after call outcome _ => if policy.logs .after then [.after icp type call outcome] else []
    | .original _ _ _ _ => []
    | .event e => s.traced? [e]

end Setup

namespace World

/-- The cache with the name; every name has one. -/
def cache (w : World) (name : Option String) : Cache Scripted := (w.caches.get? name).getD .empty

/-- The world with another cache under the name. -/
def setCache (w : World) (name : Option String) (c : Cache Scripted) : World :=
  { w with caches := w.caches.put name c }

/-- The numbers of the generated types that handles and instances use. -/
def live (w : World) : List Nat :=
  w.handles.values.map (·.serial) ++ w.instances.values.map (·.inst.proxyType.serial)

/-- The hook calls that an interceptor object has seen. -/
def callsOf (w : World) (b : Binding) : Calls := (w.calls.get? b).getD .none

/-- The generated type of the handle or else the instance with the name. -/
def typeUnder? (w : World) (name : String) : Option (ProxyType Scripted) :=
  (w.handles.get? name).or ((w.instances.get? name).map (·.inst.proxyType))

end World

/-- What carrying out a command gives. -/
structure Done where
  output : Output
  world : World
  log : List Entry

/-- An output that changes and logs nothing. -/
def Done.just (w : World) (output : Output) : Done := ⟨output, w, []⟩

/-- A generated type for a place. -/
structure Fetched where
  result : Except ProxyError (ProxyType Scripted)
  world : World
  log : List Entry

/-- Asks the cache of the place for its generated type. -/
def Setup.fetch (s : Setup) (w : World) (r : Request Scripted) (cache : Option String) :
    Fetched :=
  let answer := r.proxyType (w.cache cache) w.mint
  ⟨answer.result, { w.setCache cache answer.cache with mint := answer.mint },
    s.traced? answer.events⟩

/-- Keeps a new instance, if it was made. -/
def keepInstance (w : World) (log : List Entry) (keep : Option String) (binding : Binding) :
    Except ProxyError (Instance Scripted) → Done
  | .ok i =>
    ⟨.created i.state.cells, { w with instances := w.instances.keep keep ⟨i, binding⟩ }, log⟩
  | .error e => ⟨.refused e, w, log⟩

/-- Makes an instance of the generated type of a place. -/
def Setup.make (s : Setup) (w : World) (at_ : Place) (binding : Binding) (keep : Option String)
    (build : ProxyType Scripted → Except ProxyError (Instance Scripted)) : Done :=
  match s.request? at_ with
  | none => .just w .unknown
  | some r =>
    let found := s.fetch w r at_.cache
    keepInstance found.world found.log keep binding (found.result.bind build)

/-- Makes an instance of a generated type that is at hand. -/
def World.makeFrom (w : World) (p : Option (ProxyType Scripted)) (icp : String)
    (keep : Option String) (build : ProxyType Scripted → Except ProxyError (Instance Scripted)) :
    Done :=
  match p with
  | none => .just w .unknown
  | some p => keepInstance w [] keep (.named icp) (build p)

/-- Carries out an operation on an instance and keeps what it changed. -/
def Setup.operate (s : Setup) (w : World) (name : String) (op : Operation Binding)
    (output : Response Binding → Output) : Done :=
  match w.instances.get? name with
  | none => .just w .unknown
  | some b =>
    match s.policies.get? b.binding.source with
    | none => .just w .unknown
    | some policy =>
      let a := b.apply policy.interceptor (w.callsOf b.binding) op
      ⟨output a.response,
        { w with
          instances := w.instances.put name a.bound
          calls := w.calls.put b.binding a.hooks },
        s.entries policy b.binding.source b.inst.proxyType.type a.steps⟩

/-- The output of an operation, with that of a reply. -/
def responseOutput (reply : Reply Value → Output) : Response Binding → Output
  | .refused e => .refused e
  | .replied r => reply r
  | .previous b => .previous b.name

/-- The output of a call by name. -/
def invokeOutput (reply : Reply Value) : Output :=
  match ProxyError.ofReply reply with
  | .ok (.ok v) => .answer v
  | .ok (.error e) => .refused e
  | .failed f => .failure f
  | .panicked p => .panic p

/-- The output of a call by index. -/
def callOutput : Reply Value → Output
  | .ok v => .answer v
  | .failed f => .failure f
  | .panicked p => .panic p

/-- A typed result as a value again. -/
def encodeResult (t : HostType) (x : t.Carrier) : Value := ((t.encode x).run 0).1

/-- The output of a typed call that has ended with a reply. -/
def typedOutput (t : TypedCall) (reply : Reply Value) : Output :=
  match t.finish.observe reply with
  | .returned (.ok x) => .answer (encodeResult t.returns x)
  | .returned (.error e) => .declaredError e.text
  | .panicked p => .panic p

/-- Fills a cell by hand: the log entry, then what was asked for. -/
def Making.make : Making → Unit → Reply (Except ProxyError (Stored Scripted)) × Unit × List Event
  | .number n, _ => (.ok (.ok (.foreign n)), (), [])
  | .error reason, _ => (.ok (.error (.generation "made" "by_hand" reason)), (), [])
  | .panic p, _ => (.panicked p, (), [])

/-- The output of filling a cell by hand. -/
def makingOutput : Reply (Except ProxyError (Stored Scripted)) → Output
  | .ok (.ok (.foreign n)) => .number n
  | .ok (.ok (.proxy p)) => .typeName p.name
  | .ok (.error e) => .refused e
  | .failed f => .failure f
  | .panicked p => .panic p

/-- Fills the cell of a place by hand unless it is filled. -/
def Setup.insert (s : Setup) (w : World) (at_ : Place) (making : Making) : Done :=
  match s.request? at_ with
  | none => .just w .unknown
  | some r =>
    let c := w.cache at_.cache
    let found := c.lookupOrMake r.key making.make ()
    ⟨makingOutput found.reply, w.setCache at_.cache found.cache,
      s.traced? found.events ++ if c.contains r.key then [] else [.making]⟩

/-- The answers of several requests for one place, one after the other. -/
def Setup.fetchMany (s : Setup) (r : Request Scripted) (cache : Option String) :
    Nat → World → List (Except ProxyError (ProxyType Scripted)) × World × List Entry
  | 0, w => ([], w, [])
  | n + 1, w =>
    let found := s.fetch w r cache
    let (results, w, log) := s.fetchMany r cache n found.world
    (found.result :: results, w, found.log ++ log)

/-- The output of several requests for one place. -/
def manyOutput (results : List (Except ProxyError (ProxyType Scripted))) : Output :=
  let types := results.filterMap fun
    | .ok p => some p
    | .error _ => none
  let errors := results.filterMap fun
    | .ok _ => none
    | .error e => some e
  match types with
  | [] => .concurrent true none errors
  | p :: rest => .concurrent (rest.all fun q => q.serial = p.serial) (some p.name) errors

/-- Does something with the instance of a name. -/
def World.withInstance (w : World) (name : String) (f : Bound Binding Scripted → Done) : Done :=
  match w.instances.get? name with
  | none => .just w .unknown
  | some b => f b

/-- Carries out one command. -/
def Setup.carryOut (s : Setup) (w : World) : Command → Done
  | .proxyType at_ names keep =>
    match s.request? at_ with
    | none => .just w .unknown
    | some r =>
      let found := s.fetch w r at_.cache
      match found.result with
      | .ok p =>
        ⟨.inspected p names,
          { found.world with handles := found.world.handles.keep keep p }, found.log⟩
      | .error e => ⟨.refused e, found.world, found.log⟩
  | .create at_ icp args keep => s.make w at_ (.named icp) keep fun p => instantiate p args
  | .decorate at_ icp cells keep =>
    s.make w at_ (.named icp) keep fun p => .ok (decorate p (.ofCells cells))
  | .bypass at_ icp keep => s.make w at_ (.named icp) keep fun p => .ok (decorate p .initial)
  | .newProxy type icp args keep =>
    match s.policies.get? icp with
    | none => .just w .unknown
    | some policy =>
      let at_ : Place := ⟨type, policy.kind, none, .standard⟩
      let binding := Binding.own w.own icp
      s.make { w with own := w.own + 1 } at_ binding keep fun p => instantiate p args
  | .contains at_ =>
    match s.request? at_ with
    | none => .just w .unknown
    | some r => .just w (.flag ((w.cache at_.cache).contains r.key))
  | .insert at_ making => s.insert w at_ making
  | .concurrent at_ threads =>
    match s.request? at_ with
    | none => .just w .unknown
    | some r =>
      let (results, w, log) := s.fetchMany r at_.cache threads w
      ⟨manyOutput results, w, log⟩
  | .builder at_ =>
    .just w (.builder
      (Request.builderLayout (s.targetTag at_.type) at_.options at_.cache.isNone)
      at_.options.layout)
  | .declared type => .just w (.count (w.mint.asked.count (s.targetTag type)))
  | .purge cache =>
    let (removed, c, events) := (w.cache cache).purge w.live
    ⟨.count removed, w.setCache cache c, s.traced? events⟩
  | .clear cache => ⟨.absent, w.setCache cache (w.cache cache).clear, []⟩
  | .size cache => .just w (.size (w.cache cache).size (w.cache cache).isEmpty)
  | .stats cache => .just w (.stats (w.cache cache).stats)
  | .inspect handle names =>
    match w.handles.get? handle with
    | none => .just w .unknown
    | some p => .just w (.inspected p names)
  | .instantiate handle icp args keep =>
    w.makeFrom (w.handles.get? handle) icp keep fun p => instantiate p args
  | .decorateHandle handle icp cells keep =>
    w.makeFrom (w.handles.get? handle) icp keep fun p => .ok (decorate p (.ofCells cells))
  | .bypassHandle handle icp keep =>
    w.makeFrom (w.handles.get? handle) icp keep fun p => .ok (decorate p .initial)
  | .construct handle args =>
    match w.handles.get? handle with
    | none => .just w .unknown
    | some p =>
      match construct p args with
      | .ok o => .just w (.created o.cells)
      | .error e => .just w (.refused e)
  | .same a b =>
    match w.typeUnder? a, w.typeUnder? b with
    | some p, some q => .just w (.flag (p.serial = q.serial))
    | _, _ => .just w .absent
  | .drop name =>
    ⟨.flag ((w.handles.get? name).isSome || (w.instances.get? name).isSome),
      { w with handles := w.handles.remove name, instances := w.instances.remove name }, []⟩
  | .intoTarget inst =>
    w.withInstance inst fun b =>
      ⟨.cells b.inst.state.cells, { w with instances := w.instances.remove inst }, []⟩
  | .sibling inst icp args keep =>
    w.makeFrom ((w.instances.get? inst).map (·.inst.proxyType)) icp keep fun p =>
      instantiate p args
  | .typeOf inst names keep =>
    w.withInstance inst fun b =>
      ⟨.inspected b.inst.proxyType names,
        { w with handles := w.handles.keep keep b.inst.proxyType }, []⟩
  | .invoke inst method args =>
    s.operate w inst (.invoke method args) (responseOutput invokeOutput)
  | .call access inst index args =>
    s.operate w inst (.call access index args) (responseOutput callOutput)
  | .typed t =>
    s.operate w t.inst (.call t.access t.index t.args) (responseOutput (typedOutput t))
  | .state inst => w.withInstance inst fun b => .just w (.cells b.inst.state.cells)
  | .poke inst v =>
    w.withInstance inst fun b =>
      let state := { b.inst.state with cells := b.inst.state.cells ++ [v] }
      let b := { b with inst := { b.inst with state } }
      ⟨.cells state.cells, { w with instances := w.instances.put inst b }, []⟩
  | .rebind inst icp =>
    w.withInstance inst fun b =>
      let (bound, previous) := b.rebind (.named icp)
      ⟨.previous previous.name, { w with instances := w.instances.put inst bound }, []⟩
  | .bound inst => w.withInstance inst fun b => .just w (.text b.binding.name)
  | .debug inst => w.withInstance inst fun b => .just w (.text b.inst.layout.inline)

/-- Carries out all commands in order. -/
def Setup.run (s : Setup) : World → List Command → List (Output × List Entry)
  | _, [] => []
  | w, c :: rest =>
    let done := s.carryOut w c
    (done.output, done.log) :: s.run done.world rest

end Interpose.Session
