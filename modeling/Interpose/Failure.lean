import Interpose.HostType

/-!
# Failures, panics and replies

Model of `veneer_sdk::error` (`Failure`, `Message`, `PanicPayload`) and of `DispatchError` of
`veneer_engine::dispatch`.

Code that runs on behalf of a call ends in one of three ways: with a result, with a failure that
travels as a value, or with a panic that unwinds. `Reply` keeps all three apart, so that "a panic
reaches the caller" is a statement about a value.

* `Failure` : an error of some type, or a panic that was captured while the original method ran.
* `Reply.captured` : turns an unwinding panic into a failure and changes nothing else.
-/

namespace Interpose

open Text

/-- What a panic carries. -/
inductive Payload where
  /-- A text known at build time. -/
  | literal (text : String)
  /-- A text made while running. -/
  | owned (text : String)
  /-- Anything else, with the name of its type and its text. -/
  | other (type text : String)
deriving DecidableEq, Repr

/-- The message of a panic; only texts have one. -/
def Payload.message : Payload → String
  | .literal text | .owned text => text
  | .other _ _ => "Unknown panic"

/-- Errors raised by the dispatcher itself. -/
inductive DispatchError where
  /-- The final value does not have the declared type. -/
  | returnMismatch (method expected got : String)
  /-- A method that needs exclusive access was called through a shared reference. -/
  | receiverMismatch (method : String)
  /-- The method has no implementation on values. -/
  | unroutable (method : String)
  /-- The index is outside the declared surface. -/
  | unknownMethod (index : Nat)
deriving DecidableEq, Repr

namespace DispatchError

/-- The message. -/
def message : DispatchError → String
  | .returnMismatch method expected got => s!"'{method}' must return {expected}, got {got}"
  | .receiverMismatch method => s!"'{method}' requires exclusive access to the target"
  | .unroutable method => s!"'{method}' cannot be called through the proxy"
  | .unknownMethod index => s!"No declared method at index {index}"

/-- The reported form. -/
def layout : DispatchError → Layout
  | .returnMismatch method expected got =>
    .closed "ReturnMismatch"
      [("method", .quoted method), ("expected", .quoted expected), ("got", .quoted got)]
  | .receiverMismatch method => .closed "ReceiverMismatch" [("method", .quoted method)]
  | .unroutable method => .closed "Unroutable" [("method", .quoted method)]
  | .unknownMethod index => .closed "UnknownMethod" [("index", .ofNat index)]

end DispatchError

/-- An error of a type that the application declares. -/
structure AppError where
  /-- The name of the error type. -/
  type : String
  /-- What an error of the type holds. -/
  code : Int
  /-- The message. -/
  text : String
deriving DecidableEq, Repr

/-- An error value. Its constructor is its type. -/
inductive Error where
  /-- A plain message. -/
  | message (text : String)
  | conversion (e : ConversionError)
  | dispatch (e : DispatchError)
  | application (e : AppError)
deriving DecidableEq, Repr

/-- The types of errors. -/
inductive ErrorType where
  | message
  | conversion
  | dispatch
  /-- A type that the application declares, by name. -/
  | application (name : String)
deriving DecidableEq, Repr

/-- A name stands for the application type of that name. -/
instance : Coe String ErrorType := ⟨.application⟩

namespace Error

/-- The type of the error. -/
def type : Error → ErrorType
  | .message _ => .message
  | .conversion _ => .conversion
  | .dispatch _ => .dispatch
  | .application e => .application e.type

/-- The message. -/
def text : Error → String
  | .message text => text
  | .conversion e => e.message
  | .dispatch e => e.message
  | .application e => e.text

/-- The reported form. -/
def layout : Error → Layout
  | .message text => .tuple "Message" [.quoted text]
  | .conversion e => e.layout
  | .dispatch e => e.layout
  | .application e => .tuple e.type [.leaf (toString e.code)]

/-- The error as one of the named application type. -/
def asApplication? (type : String) : Error → Option AppError
  | .application e => if e.type = type then some e else none
  | _ => none

end Error

/-- A failure that travels through an intercepted call. -/
inductive Failure where
  /-- An error value. -/
  | raised (e : Error)
  /-- A panic of the original method, captured. -/
  | panicked (p : Payload)
deriving DecidableEq, Repr

namespace Failure

/-- A plain message as a failure. -/
def ofMessage (text : String) : Failure := .raised (.message text)

/-- The message. -/
def text : Failure → String
  | .raised e => e.text
  | .panicked p => "panicked: " ++ p.message

/-- Is it a captured panic? -/
def isPanic : Failure → Bool
  | .raised _ => false
  | .panicked _ => true

/-- The text of a plain message, if the failure is one. -/
def asMessage? : Failure → Option String
  | .raised (.message text) => some text
  | _ => none

/-- The error as one of the named application type. -/
def asApplication? (type : String) : Failure → Option AppError
  | .raised e => e.asApplication? type
  | .panicked _ => none

/-- The error, if the failure carries one of the type. -/
def downcast? (type : ErrorType) : Failure → Option Error
  | .raised e => if e.type = type then some e else none
  | .panicked _ => none

/-- What the captured panic carries, if the failure is one. -/
def payload? : Failure → Option Payload
  | .raised _ => none
  | .panicked p => some p

/-- The reported form. -/
def layout : Failure → Layout
  | .raised e => .tuple "Raised" [e.layout]
  | .panicked p => .tuple "Panicked" [.closed "PanicPayload" [("message", .quoted p.message)]]

end Failure

/-- How running code ends. -/
inductive Reply (α : Type) where
  /-- With a result. -/
  | ok (value : α)
  /-- With a failure, returned as a value. -/
  | failed (f : Failure)
  /-- With a panic, which unwinds. -/
  | panicked (p : Payload)
deriving Repr

namespace Reply

/-- Runs `k` on the result; a failure or panic ends the whole. -/
def bind {α β : Type} : Reply α → (α → Reply β) → Reply β
  | .ok a, k => k a
  | .failed f, _ => .failed f
  | .panicked p, _ => .panicked p

/-- Applies `g` to the result. -/
def map {α β : Type} (g : α → β) : Reply α → Reply β
  | .ok a => .ok (g a)
  | .failed f => .failed f
  | .panicked p => .panicked p

instance : Monad Reply where
  pure := .ok
  bind := Reply.bind

/-- The reply of a check that fails with a failure. -/
def ofExcept {α : Type} : Except Failure α → Reply α
  | .ok a => .ok a
  | .error f => .failed f

/-- An unwinding panic becomes a failure. -/
def captured {α : Type} : Reply α → Reply α
  | .panicked p => .failed (.panicked p)
  | r => r

end Reply

end Interpose
