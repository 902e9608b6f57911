import Interpose.Expansion.Shape

/-!
# What is emitted

Model of what `type_desc`, `param_descs`, `constructor_decl`, `signature`, `method_decl`,
`trait_method_sig` and `wrapper_method` of `veneer_macros::proxyable` decide.

The declarations that an expansion emits for the functions of a block, before they become tokens:
constructors and methods with their descriptors and thunks, and the methods of the typed wrapper.

* `TypeNote` : how a descriptor names a type.
* `ConstructorCode.ofShape`, `MethodCode.ofShape` : the declaration of a function.
* `WrapperCode.ofShape` : its method in the wrapper; one that is intercepted goes through the proxy
  by its index among the declared methods, any other one calls the target.
-/

namespace Interpose

open Source

namespace Expansion

/-- How a descriptor names a type. -/
inductive TypeNote where
  /-- By its spelling; the type is never converted. -/
  | native (spelling : String)
  /-- By its spelling; the type cannot be converted. -/
  | unrepresentable (spelling : String)
  /-- By its conversion. -/
  | converted (type : Ty)

/-- The note on a type. Types of functions that are never converted keep only their spelling, so
that nothing is demanded of them. -/
def TypeNote.ofType (converted : Bool) (t : Ty) : TypeNote :=
  if !converted then .native t.spelling
  else if t.isRepresentable then .converted t
  else .unrepresentable t.spelling

/-- A declared parameter. -/
structure ParamNote where
  name : String
  type : TypeNote

/-- The notes on parameters in order. -/
def paramNotes (converted : Bool) (params : List Binding) : List ParamNote :=
  params.map fun b => ⟨b.name, .ofType converted b.type⟩

/-! ## Constructors -/

/-- A declared constructor. -/
structure ConstructorCode where
  name : String
  params : List ParamNote
  visibility : Visibility
  /-- The parameters that its thunk decodes in order and whether the call can fail, if it has a
  thunk. -/
  build : Option (List Binding × Bool)

/-- The declaration of a constructor. Internal ones are never selected. -/
def ConstructorCode.ofShape (s : Shape) : ConstructorCode :=
  let converted := s.visibility != .internal
  { name := s.name
    params := paramNotes converted s.params
    visibility := s.visibility
    build :=
      if converted && s.isRepresentable then some (s.params, s.output matches .fallible ..)
      else none }

/-! ## Methods -/

/-- A declared signature. -/
structure SignatureCode where
  name : String
  receiver : Receiver
  params : List ParamNote
  /-- The result; none for the unit type. -/
  returns : Option TypeNote
  /-- The spelling of the error type. -/
  failure : Option String
  visibility : Visibility
  isFinal : Bool

/-- The declared signature of a function. -/
def SignatureCode.ofShape (converted : Bool) (s : Shape) : SignatureCode :=
  { name := s.name
    receiver := s.receiver
    params := paramNotes converted s.params
    returns := s.output.types.head?.map (TypeNote.ofType converted)
    failure :=
      match s.output with
      | .fallible _ err => some err.spelling
      | _ => none
    visibility := s.visibility
    isFinal := s.isFinal }

/-- The thunk of a method: it decodes the parameters in order, calls the method and encodes the
result. -/
structure ThunkCode where
  /-- Does it take the instance by exclusive reference? -/
  exclusive : Bool
  params : List Binding
  output : Output

/-- A declared method. -/
structure MethodCode where
  signature : SignatureCode
  thunk : Option ThunkCode

/-- The declaration of a function that is no constructor. -/
def MethodCode.ofShape (s : Shape) : MethodCode :=
  let converted := s.isCandidate && s.takesReference
  { signature := .ofShape converted s
    thunk :=
      if converted && s.isRepresentable then
        some ⟨s.receiver == .exclusive, s.params, s.output⟩
      else none }

/-! ## The wrapper -/

/-- A method of the typed wrapper. -/
structure WrapperCode where
  name : String
  /-- Does it take the proxy by exclusive reference? -/
  exclusive : Bool
  params : List Binding
  output : Output
  /-- The index among the declared methods through which it is intercepted, if it is. -/
  index : Option Nat

/-- The wrapper method of the function that is declared at an index. -/
def WrapperCode.ofShape (index : Nat) (s : Shape) : WrapperCode :=
  { name := s.name
    exclusive := s.receiver == .exclusive
    params := s.params
    output := s.output
    index := if s.isCandidate && s.isRepresentable then some index else none }

/-- The wrapper methods of the declared functions. -/
def wrapperCodes (methods : List Shape) : List WrapperCode :=
  (methods.zipIdx.filter fun m => m.1.isWrappable).map fun m => .ofShape m.2 m.1

end Expansion

/-- An expansion: the block as it was less the flags, and the declarations for it. -/
structure Expansion where
  block : Block
  /-- The last name in the path of the implementing type. -/
  simple : String
  /-- The literal of the qualified name, if one is given. -/
  qualified : Option String
  isSealed : Bool
  constructors : List Expansion.ConstructorCode
  methods : List Expansion.MethodCode
  /-- The name of the wrapper. -/
  wrapper : String
  wrappers : List Expansion.WrapperCode

end Interpose
