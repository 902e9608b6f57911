import Interpose.Failure

/-!
# Typed edges of a call

Model of `veneer_engine::glue` (`arg`, `complete`, `complete_fallible`, `decode`, `unwind`).

Typed code decodes its arguments out of the argument list and turns the outcome of a call back
into a typed result.

* `argument` : the argument at an index, decoded.
* `complete` : finishes a call whose method declares no error type. A captured panic resumes with
  its own payload; any other failure cannot be expressed and panics.
* `completeFallible` : finishes a call of a method that declares an error type; errors of that
  type come back as values.
* `Finish.observe` : either of the two, over every way in which a call can end.
-/

namespace Interpose

/-- The argument at `index`, decoded as a host value of type `t`. -/
def argument (t : HostType) (args : List Value) (index : Nat) : Except Failure t.Carrier :=
  match args[index]? with
  | none => .error (.ofMessage s!"missing argument {index}")
  | some v =>
    match t.decode v with
    | .ok x => .ok x
    | .error e => .error (.raised (.conversion e))

/-- How a typed call ends: it returns or it panics. -/
inductive Completed (α : Type) where
  | returned (value : α)
  | panicked (p : Payload)
deriving Repr

namespace Completed

/-- Applies `g` to the result. -/
def map {α β : Type} (g : α → β) : Completed α → Completed β
  | .returned a => .returned (g a)
  | .panicked p => .panicked p

end Completed

/-- Decodes the final value of a call of `method`. -/
def decodeResult (t : HostType) (method : String) (v : Value) : Completed t.Carrier :=
  match t.decode v with
  | .ok x => .returned x
  | .error e =>
    .panicked (.owned
      (s!"proxy method '{method}' produced an incompatible value: " ++ e.message))

/-- Unwinds with a failure that the method's signature has no place for. -/
def unwind {α : Type} (method : String) : Failure → Completed α
  | .panicked p => .panicked p
  | .raised e =>
    .panicked (.owned (s!"undeclared failure from proxy method '{method}': " ++ e.text))

/-- Finishes a typed call whose method declares no error type. -/
def complete (t : HostType) (method : String) : Except Failure Value → Completed t.Carrier
  | .ok v => decodeResult t method v
  | .error f => unwind method f

/-- Finishes a typed call of a method that declares the error type `error`. -/
def completeFallible (t : HostType) (error : ErrorType) (method : String) :
    Except Failure Value → Completed (Except Error t.Carrier)
  | .ok v => (decodeResult t method v).map .ok
  | .error f =>
    match f.downcast? error with
    | some e => .returned (.error e)
    | none => unwind method f

/-- How typed code finishes the calls of a method. -/
structure Finish where
  /-- The type of the result. -/
  returns : HostType
  /-- The error type that the method declares, if it declares one. -/
  declares : Option ErrorType
  /-- The method's name in messages. -/
  method : String

namespace Finish

/-- What typed code sees: a result, an error of the declared type, or a panic. -/
abbrev Seen (f : Finish) : Type := Completed (Except Error f.returns.Carrier)

/-- Finishes a call that came back. -/
def complete (f : Finish) (result : Except Failure Value) : f.Seen :=
  match f.declares with
  | none => (Interpose.complete f.returns f.method result).map .ok
  | some error => completeFallible f.returns error f.method result

/-- Finishes a call. One that panicked never comes back, and the panic is what typed code sees. -/
def observe (f : Finish) : Reply Value → f.Seen
  | .ok v => f.complete (.ok v)
  | .failed e => f.complete (.error e)
  | .panicked p => .panicked p

end Finish

end Interpose
