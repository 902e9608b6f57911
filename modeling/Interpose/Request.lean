import Interpose.Cache
import Interpose.Instance

/-!
# Proxy requests

Model of `ProxyCache::get_or_create` of `veneer_engine::cache`, of `Enhancer::proxy_type` of
`veneer_engine::enhancer`, and of the counter of `veneer_engine::synth`.

A request names a target type, an interceptor type and options, and asks a cache for the
generated type. The first request for a key describes and synthesizes the type; later ones share
it. Numbers of generated types are drawn from one counter, by successful syntheses only.

* `Mint` : the counter, and how often each target was asked for its surface.
* `Request.generate` : describes and synthesizes, without a cache.
* `Request.proxyType` : the generated type from a cache.
-/

namespace Interpose

open Text

/-- What generating types draws on and leaves behind. The next number is a natural number where the
program has an atomic of 64 bits, so runs of fewer than `2 ^ 64` syntheses are meant. -/
structure Mint where
  /-- The number of the next generated type. -/
  next : Nat
  /-- The targets that were asked for their surface, latest first. -/
  asked : List Tag
deriving Repr

/-- A request for the proxy type of a target. -/
structure Request (S : Type) where
  /-- What the target type declares. -/
  surface : Surface S
  interceptor : Tag
  options : Options

variable {S : Type}

namespace Request

/-- The target type. -/
def target (r : Request S) : Tag := r.surface.type

/-- The key of the request. -/
def key (r : Request S) : Key := ⟨r.target, r.interceptor, r.options⟩

/-- Describes and synthesizes with the given number. -/
def generated (r : Request S) (serial : Nat) : Except ProxyError (ProxyType S) :=
  (r.surface.describe r.options.filter).bind fun t => t.synthesize r.interceptor r.options serial

/-- The events of describing and synthesizing. -/
def generationEvents (r : Request S) (serial : Nat) : List Event :=
  match r.surface.describe r.options.filter with
  | .error _ => []
  | .ok t =>
    t.warnings ++
      match t.synthesize r.interceptor r.options serial with
      | .error _ => []
      | .ok p => [p.synthesisEvent]

/-- Describes and synthesizes. The surface is asked for in any case; the number is taken only by
a success. -/
def generate (r : Request S) (m : Mint) :
    Reply (Except ProxyError (Stored S)) × Mint × List Event :=
  let asked := r.target :: m.asked
  let events := r.generationEvents m.next
  match r.generated m.next with
  | .error e => (.ok (.error e), ⟨m.next, asked⟩, events)
  | .ok p => (.ok (.ok (.proxy p)), ⟨m.next + 1, asked⟩, events)

/-- The error for a cell that holds something else than a generated type of the target for the
type of interceptor. -/
def unexpectedShape (r : Request S) : ProxyError :=
  .generation r.target.name "" "cached proxy type has an unexpected shape"

/-- How a request ends. -/
structure Answer (S : Type) where
  result : Except ProxyError (ProxyType S)
  cache : Cache S
  mint : Mint
  events : List Event

/-- The generated type from the cache, generated on the first request. -/
def proxyType (r : Request S) (c : Cache S) (m : Mint) : Answer S :=
  let found := c.lookupOrMake r.key r.generate m
  let result : Except ProxyError (ProxyType S) :=
    match found.reply with
    | .ok (.ok stored) =>
      match stored.proxy? r.target r.interceptor with
      | some p => .ok p
      | none => .error r.unexpectedShape
    | .ok (.error e) => .error e
    | _ => .error r.unexpectedShape
  ⟨result, found.cache, found.world, found.events⟩

/-- The reported form of a builder with the request's target and options. -/
def builderLayout (target : Tag) (options : Options) (sharedCache : Bool) : Layout :=
  .closed "Enhancer"
    [("target", .quoted target.name), ("options", options.layout),
     ("shared_cache", .ofBool sharedCache)]

end Request

end Interpose
