import Interpose.Value

/-!
# Log events

Model of the events that `veneer_engine` emits in `describe`, `synthesize`, `dispatch` and the
operations of `ProxyCache`.

What the library reports while it works. An event is a value; where and whether it is written is
up to the caller.

* `Event.channel`, `Event.level`, `Event.fields` : the written form of an event.
-/

namespace Interpose

/-- A log event. -/
inductive Event where
  /-- A request found its generated type. -/
  | cacheHit (target : String)
  /-- A request starts a synthesis. -/
  | cacheMiss (target : String)
  /-- A purge removed generated types. -/
  | purged (removed remaining : Nat)
  /-- A type has no eligible method. -/
  | nothingEligible (type : String) (declared : Nat)
  /-- A type was generated. -/
  | synthesized (proxy target interceptor : String) (slots direct : Nat)
  /-- The hook before a call answered. -/
  | answered (proxy method : String) (proceed : Bool)
  /-- The original method ran or was skipped. -/
  | settled (proxy method outcome : String)
deriving DecidableEq, Repr

/-- How much an event matters. -/
inductive Level where
  | trace
  | debug
  | warn
deriving DecidableEq, Repr

/-- The written form of a level. -/
def Level.text : Level → String
  | .trace => "TRACE"
  | .debug => "DEBUG"
  | .warn => "WARN"

namespace Event

/-- The part of the library that an event comes from. -/
def channel : Event → String
  | .cacheHit _ | .cacheMiss _ | .purged _ _ => "veneer::cache"
  | .nothingEligible _ _ => "veneer::descriptor"
  | .synthesized _ _ _ _ _ => "veneer::synth"
  | .answered _ _ _ | .settled _ _ _ => "veneer::dispatch"

/-- The level of an event. -/
def level : Event → Level
  | .nothingEligible _ _ => .warn
  | .answered _ _ _ | .settled _ _ _ => .trace
  | _ => .debug

/-- The fields of an event, the message among them. -/
def fields : Event → List (String × String)
  | .cacheHit target => [("target_type", target), ("message", "cache hit")]
  | .cacheMiss target => [("target_type", target), ("message", "cache miss")]
  | .purged removed remaining =>
    [("removed", toString removed), ("remaining", toString remaining),
     ("message", "purged unused proxy types")]
  | .nothingEligible type declared =>
    [("type_name", type), ("declared", toString declared),
     ("message", "no eligible methods; the proxy will intercept nothing")]
  | .synthesized proxy target interceptor slots direct =>
    [("proxy", proxy), ("target_type", target), ("interceptor", interceptor),
     ("slots", toString slots), ("direct", toString direct),
     ("message", "synthesized proxy type")]
  | .answered proxy method proceed =>
    [("proxy", proxy), ("method", method), ("proceed", if proceed then "true" else "false"),
     ("message", "pre_invoke")]
  | .settled proxy method outcome =>
    [("proxy", proxy), ("method", method), ("outcome", outcome), ("message", "super")]

end Event

end Interpose
