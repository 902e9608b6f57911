import Interpose.Failure

/-!
# Errors of proxy creation and of calls by name

Model of `veneer_engine::error` (`ProxyError`, `is_failure`).

One constructor per cause; `ProxyError.message` holds the wording.
-/

namespace Interpose

/-- Why a proxy could not be made or a call by name did not succeed. -/
inductive ProxyError where
  /-- The type is sealed or has no accessible constructor. -/
  | notExtendable (type reason : String)
  /-- An eligible method cannot be generated. -/
  | generation (type method reason : String)
  /-- No constructor fits, or the constructor did not succeed. -/
  | construction (type reason : String)
  /-- The failure that ended an intercepted call. -/
  | interceptorFailure (f : Failure)
  /-- No callable instance method has the name. -/
  | noSuchMethod (type method : String)
  /-- The arguments do not fit the method's parameters. -/
  | invalidArguments (method expected got : String)
deriving DecidableEq, Repr

namespace ProxyError

/-- The message. -/
def message : ProxyError → String
  | .notExtendable type reason => s!"Type '{type}' cannot be proxied: {reason}"
  | .generation type method reason =>
    s!"Cannot generate proxy method '{type}::{method}': {reason}"
  | .construction type reason => s!"Cannot construct '{type}': {reason}"
  | .interceptorFailure f => "Intercepted call failed: " ++ f.text
  | .noSuchMethod type method => s!"No instance method '{method}' on '{type}'"
  | .invalidArguments method expected got =>
    s!"Invalid arguments for '{method}': expected ({expected}), got ({got})"

/-- What the caller of a call by name gets of the reply: a failure that ended the call is an
error. -/
def ofReply : Reply Value → Reply (Except ProxyError Value)
  | .ok v => .ok (.ok v)
  | .failed f => .ok (.error (.interceptorFailure f))
  | .panicked p => .panicked p

/-- Does the error carry a failure with an application error of the named type? -/
def carries (e : ProxyError) (type : String) : Bool :=
  match e with
  | .interceptorFailure f => (f.asApplication? type).isSome
  | _ => false

end ProxyError

end Interpose
