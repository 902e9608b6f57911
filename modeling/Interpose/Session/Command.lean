import Interpose.Request
import Interpose.Session.Policy

/-!
# Commands of a session and what they give

A session works on scripted target types and interceptors through the public operations of the
library. This file has the commands, their results and the entries of the log.

The commands are calls of `Enhancer` (`veneer_engine::enhancer`), `ProxyCache`
(`veneer_engine::cache`), `ProxyInstance` (`veneer_engine::instance`) and of the functions of
`veneer_engine::factory`.
-/

namespace Interpose.Session

open Interpose

/-- The generated type that a command asks for. -/
structure Place where
  /-- The number of the target type. -/
  type : Nat
  /-- The interceptor type. -/
  kind : Kind
  /-- The cache; without a name the one that all sessions share. -/
  cache : Option String
  options : Options

/-- What a caller puts into an empty cell by hand. -/
inductive Making where
  | number (n : Nat)
  | error (reason : String)
  | panic (p : Payload)

/-- A typed call. -/
structure TypedCall where
  inst : String
  index : Nat
  args : List Value
  /-- The type of the result. -/
  returns : HostType
  /-- The method's name in messages. -/
  method : String
  access : Access
  /-- The error type that the method declares, if it declares one. -/
  declares : Option ErrorType

/-- How the call is finished. -/
def TypedCall.finish (t : TypedCall) : Finish := ⟨t.returns, t.declares, t.method⟩

/-- A command. Names given as `keep` are those under which a result is kept. -/
inductive Command where
  | proxyType (at_ : Place) (names : List String) (keep : Option String)
  | create (at_ : Place) (icp : String) (args : List Value) (keep : Option String)
  | decorate (at_ : Place) (icp : String) (cells : List Value) (keep : Option String)
  | bypass (at_ : Place) (icp : String) (keep : Option String)
  /-- Default options, the shared cache and an interceptor of its own. -/
  | newProxy (type : Nat) (icp : String) (args : List Value) (keep : Option String)
  | contains (at_ : Place)
  | insert (at_ : Place) (making : Making)
  | concurrent (at_ : Place) (threads : Nat)
  | builder (at_ : Place)
  | declared (type : Nat)
  | purge (cache : Option String)
  | clear (cache : Option String)
  | size (cache : Option String)
  | stats (cache : Option String)
  | inspect (handle : String) (names : List String)
  | instantiate (handle icp : String) (args : List Value) (keep : Option String)
  | decorateHandle (handle icp : String) (cells : List Value) (keep : Option String)
  | bypassHandle (handle icp : String) (keep : Option String)
  | construct (handle : String) (args : List Value)
  | same (a b : String)
  | drop (name : String)
  | intoTarget (inst : String)
  | sibling (inst icp : String) (args : List Value) (keep : Option String)
  | typeOf (inst : String) (names : List String) (keep : Option String)
  | invoke (inst method : String) (args : List Value)
  | call (access : Access) (inst : String) (index : Nat) (args : List Value)
  | typed (call : TypedCall)
  | state (inst : String)
  | poke (inst : String) (v : Value)
  | rebind (inst icp : String)
  | bound (inst : String)
  | debug (inst : String)

/-- What a command gives. -/
inductive Output where
  /-- A generated type, looked at by the given names. -/
  | inspected (p : ProxyType Scripted) (names : List String)
  | refused (e : ProxyError)
  /-- The cells of a new object. -/
  | created (cells : List Value)
  | cells (cells : List Value)
  | flag (b : Bool)
  | absent
  | count (n : Nat)
  | size (n : Nat) (isEmpty : Bool)
  | stats (s : Stats)
  | number (n : Nat)
  | typeName (name : String)
  | concurrent (same : Bool) (name : Option String) (errors : List ProxyError)
  | builder (layout options : Text.Layout)
  | answer (v : Value)
  | failure (f : Failure)
  | panic (p : Payload)
  /-- The declared error of a typed call. -/
  | declaredError (text : String)
  | previous (name : String)
  | text (s : String)
  /-- A name that the session does not know. -/
  | unknown

/-- An entry of the log. -/
inductive Entry where
  | before (icp : String) (type : Tag) (call : Invocation Scripted)
  | after (icp : String) (type : Tag) (call : Invocation Scripted) (outcome : Outcome)
  | event (e : Event)
  /-- A caller fills a cell by hand. -/
  | making

end Interpose.Session
