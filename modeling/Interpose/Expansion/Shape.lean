import Interpose.Expansion.Arguments
import Interpose.Expansion.Representable
import Interpose.Signature

/-!
# Shapes of associated functions

Model of `veneer_macros::classify` (`classify`, `FnShape`, `return_shape`, `returns_self`,
`vis_kind`).

What a function is to a proxy: a constructor, an associated function or a method; with parameters
and a result that can cross the value boundary or not; and whether the typed wrapper has it.

* `Shape.ofFunction?` : the shape of a function, unless its flags cannot be read.
* `Shape.isRepresentable` : can it be called through values?
* `Shape.isCandidate` : may a proxy ever override it?
* `Shape.isWrappable` : can the wrapper have it?
-/

namespace Interpose.Expansion

open Source

/-! ## Results -/

/-- The result of a function. -/
inductive Output where
  /-- Nothing, or the unit type. -/
  | unit
  | plain (type : Ty)
  /-- A success or an error. -/
  | fallible (ok err : Ty)

namespace Output

/-- The types among the arguments. -/
def typeArguments (args : List Arg) : List Ty :=
  args.filterMap fun
    | .type t => some t
    | _ => none

/-- The result that a type stands for. A path that ends in `Result` with two types as arguments is
fallible, whatever leads there and whatever other arguments it has. -/
def ofType (t : Ty) : Output :=
  match t with
  | .tuple [] _ => .unit
  | _ =>
    match t.lastSegment? with
    | some (.applied "Result" _ args _) =>
      match typeArguments args with
      | [ok, err] => .fallible ok err
      | _ => .plain t
    | _ => .plain t

/-- The result that is declared; none is the unit type. -/
def ofResult : Option Ty → Output
  | none => .unit
  | some t => ofType t

/-- The types of the result in order. -/
def types : Output → List Ty
  | .unit => []
  | .plain t => [t]
  | .fallible ok err => [ok, err]

/-- Is it the implementing type, perhaps as the success of a fallible function? -/
def isImplementer (self : String) : Output → Bool
  | .unit => false
  | .plain t => t.isImplementer self
  | .fallible ok _ => ok.isImplementer self

/-- Does it mention the implementing type? -/
def mentionsSelf (o : Output) : Bool := o.types.any Ty.mentionsSelf

/-- Can the result be converted? An error only has to be free of the implementing type. -/
def isRepresentable : Output → Bool
  | .unit => true
  | .plain t => t.isRepresentable
  | .fallible ok err => ok.isRepresentable && !err.mentionsSelf

end Output

/-! ## Parameters -/

/-- A parameter as emitted code binds it. -/
structure Binding where
  /-- The name of its variable. -/
  binder : String
  /-- The name that is reported. -/
  name : String
  type : Ty

namespace Binding

/-- The name that a pattern binds as a whole: a name, perhaps by reference or mutable, perhaps
with a pattern for its parts. -/
def nameOfPattern? (pattern : List Token) : Option String :=
  let (marked, pattern) := strip "ref" pattern
  let (marked', pattern) := strip "mut" pattern
  match pattern with
  | .word w :: rest =>
    if (marked || marked' || !isReserved w) && (rest.isEmpty || beginsWithAt rest) then some w
    else none
  | _ => none
where
  strip (w : String) : List Token → Bool × List Token
    | .word v :: rest => if v == w then (true, rest) else (false, .word v :: rest)
    | ts => (false, ts)
  beginsWithAt : List Token → Bool
    | .mark '@' _ :: _ => true
    | _ => false

/-- The binding of the parameter at a position. A pattern that binds no single name gets names
from the position. -/
def ofParameter (index : Nat) (p : Parameter) : Binding :=
  match nameOfPattern? p.pattern with
  | some name => ⟨name, name, p.type⟩
  | none => ⟨"__arg" ++ toString index, "_" ++ toString index, p.type⟩

end Binding

/-! ## Shapes -/

/-- What a function is to a proxy. -/
structure Shape where
  name : String
  receiver : Receiver
  params : List Binding
  output : Output
  visibility : Visibility
  isFinal : Bool
  /-- Is it left out of the declared surface? -/
  isSkipped : Bool
  /-- Is it an associated function that gives the implementing type? -/
  isConstructor : Bool
  /-- Is it without generic parameters, conditions, further arguments, and neither asynchronous
  nor unsafe? -/
  isPlain : Bool
  /-- Does a parameter mention the implementing type, or the result of what is no constructor? -/
  mentionsSelf : Bool

/-- How a function receives its instance. A receiver with its type spelled out is not taken
apart. -/
def receiverOf : Option ReceiverParameter → Receiver
  | none => .static
  | some r =>
    match r.form with
    | .reference _ true => .exclusive
    | .reference _ false => .shared
    | .value _ => .owned
    | .typed .. => .owned

/-- Who may name the function. -/
def visibilityOf : VisibilityMark → Visibility
  | .exported => .exported
  | .restricted _ => .restricted
  | .inherited => .internal

namespace Shape

/-- The shape of a function of the type `self`, with its flags. -/
def ofFunction (self : String) (f : Function) (flags : Flags) : Shape :=
  let receiver := receiverOf f.receiver
  let params := f.parameters.mapIdx Binding.ofParameter
  let output := Output.ofResult f.result
  let isConstructor := receiver == .static && output.isImplementer self
  { name := f.name
    receiver, params, output, isConstructor
    visibility := visibilityOf f.visibility
    isFinal := flags.isFinal
    isSkipped := flags.isSkipped
    isPlain := f.generics.items.isEmpty && f.conditions.isNone && !f.isAsync && !f.isUnsafe &&
      f.variadic.isNone
    mentionsSelf := params.any (·.type.mentionsSelf) || (!isConstructor && output.mentionsSelf) }

/-- The shape of a function of the type `self`, unless its flags cannot be read. -/
def ofFunction? (self : String) (f : Function) : Except ArgumentError Shape := do
  return ofFunction self f (← Flags.ofAttributes f.attributes)

/-- Can the function be called through values? -/
def isRepresentable (s : Shape) : Bool :=
  s.isPlain && s.receiver != .owned && s.params.all (·.type.isRepresentable) &&
    (s.isConstructor || (!s.mentionsSelf && s.output.isRepresentable))

/-- May a proxy ever override the function? Associated, internal and final functions are only
called directly, so that no conversions are emitted for them. -/
def isCandidate (s : Shape) : Bool :=
  s.receiver != .static && s.visibility != .internal && !s.isFinal

/-- Is the instance received by reference? -/
def takesReference (s : Shape) : Bool := s.receiver == .shared || s.receiver == .exclusive

/-- Does a parameter or the result hold an anonymous implementer? -/
def hasImplementer (s : Shape) : Bool :=
  (s.params.map (·.type) ++ s.output.types).any fun t => mention "impl" t.tokens

/-- Can the wrapper have the function? -/
def isWrappable (s : Shape) : Bool :=
  s.visibility == .exported && s.takesReference && s.isPlain && !s.mentionsSelf &&
    !s.hasImplementer

end Shape

end Interpose.Expansion
