import Interpose.Dispatch

/-!
# Proxy instances

Model of `ProxyInstance` (`call_ref`, `call_mut`, `invoke`) of `veneer_engine::instance` and of
`veneer_engine::factory` (`construct`, `instantiate`, `decorate`).

An instance owns the state of its target and shares its generated type with the other instances
of that type. The interceptor is bound from outside: an instance is called together with the
interceptor and its state.

* `ProxyType.resolve` : the method that a call by name comes to, if name and arguments fit.
* `Instance.callRef`, `Instance.callMut` : calls by declaration index.
* `Instance.invoke` : a call by name, which checks name and arguments before anything runs.
* `ProxyType.construction`, `construct` : what the first fitting constructor builds.
-/

namespace Interpose

/-- An instance of a generated type. -/
structure Instance (S : Type) where
  proxyType : ProxyType S
  /-- The state of the target. -/
  state : S

variable {H S : Type}

/-- The position of the method that a call by name runs, or why there is no such call. -/
def ProxyType.resolve (p : ProxyType S) (method : String) (args : List Value) :
    Except ProxyError Nat :=
  match p.indexOf? method with
  | none => .error (.noSuchMethod p.target method)
  | some index =>
    match p.method? method with
    | none => .ok index
    | some s =>
      if s.acceptsArgs args then .ok index
      else .error (.invalidArguments method
        (", ".intercalate (s.params.map fun param => param.type.text)) (Value.typeNames args))

namespace Instance

/-- Calls a method that shares the target, by declaration index. -/
def callRef (i : Instance S) (icp : Interceptor H S) (index : Nat) (args : List Value)
    (hooks : H) : Ending H S :=
  dispatch i.proxyType icp .shared index args i.state hooks

/-- Calls any method, by declaration index. -/
def callMut (i : Instance S) (icp : Interceptor H S) (index : Nat) (args : List Value)
    (hooks : H) : Ending H S :=
  dispatch i.proxyType icp .exclusive index args i.state hooks

/-- Calls a method by declaration index, with the access at hand. -/
def call (i : Instance S) (icp : Interceptor H S) (access : Access) (index : Nat)
    (args : List Value) (hooks : H) : Ending H S :=
  match access with
  | .shared => i.callRef icp index args hooks
  | .exclusive => i.callMut icp index args hooks

/-- Calls a method by name. A refused call runs nothing. -/
def invoke (i : Instance S) (icp : Interceptor H S) (method : String) (args : List Value)
    (hooks : H) : Except ProxyError (Ending H S) :=
  (i.proxyType.resolve method args).map fun index => i.callMut icp index args hooks

/-- The reported form. -/
def layout (i : Instance S) : Text.Layout :=
  .record "ProxyInstance" [("proxy_type", i.proxyType.layout)] true

end Instance

/-- A constructor that is to run. -/
structure Selection (S : Type) where
  /-- Its position in the declaration. -/
  position : Nat
  name : String
  build : List Value → Reply S

/-- The constructor that a construction runs: the first accessible one with an implementation
that accepts the arguments. -/
def selectConstructor? (constructors : List (Constructor S)) (args : List Value) :
    Option (Selection S) :=
  constructors.zipIdx.findSome? fun ci =>
    if ci.1.visibility.isAccessible && ci.1.accepts args then
      ci.1.build.map fun build => ⟨ci.2, ci.1.name, build⟩
    else none

/-- A run of a constructor's implementation. -/
structure Build (S : Type) where
  /-- The position of the constructor in the declaration. -/
  position : Nat
  args : List Value
  reply : Reply S

/-- What a construction gives, and what it ran, in order. -/
structure Construction (S : Type) where
  result : Except ProxyError S
  builds : List (Build S)

/-- What a construction makes of the reply of the constructor with the name. Failures and panics are
errors of the construction. -/
def constructed (target name : String) : Reply S → Except ProxyError S
  | .ok state => .ok state
  | .failed f => .error (.construction target (s!"constructor '{name}' failed: " ++ f.text))
  | .panicked payload =>
    .error (.construction target (s!"constructor '{name}' " ++ (Failure.panicked payload).text))

/-- A construction with the given arguments. -/
def ProxyType.construction (p : ProxyType S) (args : List Value) : Construction S :=
  match selectConstructor? p.constructors args with
  | none =>
    ⟨.error (.construction p.target
      ("no accessible constructor accepts (" ++ Value.typeNames args ++ ")")), []⟩
  | some c =>
    let reply := c.build args
    ⟨constructed p.target c.name reply, [⟨c.position, args, reply⟩]⟩

/-- The state that a construction ends with. -/
def construct (p : ProxyType S) (args : List Value) : Except ProxyError S :=
  (p.construction args).result

/-- Makes an instance through a declared constructor. -/
def instantiate (p : ProxyType S) (args : List Value) : Except ProxyError (Instance S) :=
  (construct p args).map fun state => ⟨p, state⟩

/-- Makes an instance around a state that already exists. -/
def decorate (p : ProxyType S) (state : S) : Instance S := ⟨p, state⟩

end Interpose
