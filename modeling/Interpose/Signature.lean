import Interpose.Descriptor

/-!
# Method signatures

Model of `veneer_sdk::signature` (`MethodSignature`, `ParamDesc`, `Receiver`, `Visibility`).

The unit of interception eligibility: a name, the parameters and result as descriptors, how the
instance is received, and who may call it.

* `Signature.acceptsArgs` : do arguments fit in number and shape?
* `Signature.unrepresentableReason?` : why a method cannot be routed through values, if it cannot.
* `Signature.sameShape` : equality up to names and flags.
-/

namespace Interpose

open Text

/-- How a method receives its instance. -/
inductive Receiver where
  /-- Not at all: an associated function. -/
  | static
  /-- By shared reference. -/
  | shared
  /-- By exclusive reference. -/
  | exclusive
  /-- By value, or through an explicitly typed receiver. -/
  | owned
deriving DecidableEq, Repr, Inhabited

/-- Who may name a method or constructor. -/
inductive Visibility where
  /-- Everyone. -/
  | exported
  /-- A named part of the program. -/
  | restricted
  /-- Only the module that declares it. -/
  | internal
deriving DecidableEq, Repr, Inhabited

/-- Is the item visible outside its own module? -/
def Visibility.isAccessible (v : Visibility) : Bool := v ≠ .internal

/-- The reported form. -/
def Receiver.layout : Receiver → Layout
  | .static => .leaf "Static"
  | .shared => .leaf "Shared"
  | .exclusive => .leaf "Exclusive"
  | .owned => .leaf "Owned"

/-- The reported form. -/
def Visibility.layout : Visibility → Layout
  | .exported => .leaf "Public"
  | .restricted => .leaf "Restricted"
  | .internal => .leaf "Private"

/-- A parameter. -/
structure Param where
  /-- Its name; a pattern has the name of its position. -/
  name : String
  /-- Its type. -/
  type : Desc
deriving DecidableEq, Repr

/-- The reported form. -/
def Param.layout (p : Param) : Layout :=
  .closed "ParamDesc" [("name", .quoted p.name), ("ty", p.type.layout)]

/-- Do the arguments fit the parameters in number and shape? -/
def Param.accept (params : List Param) (args : List Value) : Bool :=
  args.length == params.length && (params.zip args).all fun pa => pa.1.type.accepts pa.2

/-- The signature of a declared method. -/
structure Signature where
  name : String
  /-- Parameters in order, without the receiver. -/
  params : List Param
  /-- The result; for a fallible method that of a success. -/
  returns : Desc
  /-- The declared error type of a fallible method. -/
  failure : Option String
  receiver : Receiver
  visibility : Visibility
  /-- Is the method never intercepted? -/
  isFinal : Bool
deriving DecidableEq, Repr

namespace Signature

/-- Is it an associated function? -/
def isStatic (s : Signature) : Bool := s.receiver = .static

/-- The number of parameters. -/
def arity (s : Signature) : Nat := s.params.length

/-- May a proxy override the method at all? -/
def isOverridable (s : Signature) : Bool :=
  !s.isFinal && !s.isStatic && s.visibility.isAccessible

/-- Why calls cannot be routed through values, if they cannot: a consuming receiver first, then
the first parameter, then the result. -/
def unrepresentableReason? (s : Signature) : Option String :=
  if s.receiver = .owned then some "consuming receiver cannot be shared with the proxy"
  else
    match s.params.find? fun p => !p.type.isRepresentable with
    | some p => some ("parameter `" ++ p.name ++ "` has unrepresentable type `" ++ p.type.text ++ "`")
    | none =>
      if s.returns.isRepresentable then none
      else some ("unrepresentable return type `" ++ s.returns.text ++ "`")

/-- Do the arguments fit the signature? -/
def acceptsArgs (s : Signature) (args : List Value) : Bool := Param.accept s.params args

/-- The same parameter types, result, error type and receiver. -/
def sameShape (a b : Signature) : Bool :=
  a.params.map (·.type) = b.params.map (·.type) && a.returns = b.returns &&
    a.failure = b.failure && a.receiver = b.receiver

/-- The receiver as the first of the written parameters. -/
def receiverText : Receiver → List String
  | .static => []
  | .shared => ["&self"]
  | .exclusive => ["&mut self"]
  | .owned => ["self"]

/-- The written result: nothing for the unit result of an infallible method. -/
def resultText (returns : Desc) : Option String → String
  | some error => " -> Result<" ++ returns.text ++ ", " ++ error ++ ">"
  | none => if returns = .unit then "" else " -> " ++ returns.text

/-- The signature as messages and logs write it. -/
def text (s : Signature) : String :=
  let params := receiverText s.receiver ++ s.params.map fun p => p.name ++ ": " ++ p.type.text
  "fn " ++ s.name ++ "(" ++ ", ".intercalate params ++ ")" ++ resultText s.returns s.failure

/-- The reported form. -/
def layout (s : Signature) : Layout :=
  .closed "MethodSignature"
    [("name", .quoted s.name),
     ("params", .list (s.params.map Param.layout)),
     ("returns", s.returns.layout),
     ("failure", .ofOption (s.failure.map .quoted)),
     ("receiver", s.receiver.layout),
     ("visibility", s.visibility.layout),
     ("is_final", .ofBool s.isFinal)]

end Signature

end Interpose
