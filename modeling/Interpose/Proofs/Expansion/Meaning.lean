import Interpose.Completion
import Interpose.Expansion.Expand
import Interpose.Instance

/-!
# What emitted code does

Model of what the code that `constructor_decl`, `method_decl` and `wrapper_method` of
`veneer_macros::proxyable` emit does when it runs.

An expansion emits declarations: thunks that run the functions of a block on values, and a wrapper
that calls them through a proxy. Here these declarations are run.

* A `Scope` says what the types written in the block are, and a `Library` what its functions do
  with typed values.
* The target together with the next free handle is a `World`: thunks and wrappers make a handle for
  every object that they write.
* Variables are told apart by their positions. The wrapper has them as parameters, which compile
  only under different names, so the variable of a position holds the argument of that position.

Main definitions:
* `ThunkCode.original` : decodes the arguments in order, calls the function and encodes its result.
* `MethodCode.method`, `ConstructorCode.constructor`, `Expansion.surface` : the declared surface.
* `WrapperCode.call` : a call of a wrapper method on a proxy.
-/

namespace Interpose

open Source

/-! ## Typed values in order -/

namespace HostType

/-- Host values of the types, in order. -/
@[reducible] def Tuple : List HostType → Type
  | [] => Unit
  | t :: rest => t.Carrier × Tuple rest

/-- Writes host values in order. -/
def encodeAll : (ts : List HostType) → Tuple ts → StateM Supply (List Value)
  | [], _ => pure []
  | t :: rest, (x, xs) => do
    let v ← t.encode x
    let vs ← encodeAll rest xs
    pure (v :: vs)

/-- Reads the arguments from the one at `index` on as host values, in order. -/
def decodeFrom (args : List Value) : (ts : List HostType) → Nat → Except Failure (Tuple ts)
  | [], _ => .ok ()
  | t :: rest, index => do
    let x ← argument t args index
    let xs ← decodeFrom args rest (index + 1)
    pure (x, xs)

end HostType

/-! ## Functions on typed values -/

/-- A function of the implementing type: how it ends and the state that it leaves its instance
in. -/
structure TypedFunction (S : Type) (params : List HostType) (returns : HostType)
    (declares : Option ErrorType) where
  run : S → HostType.Tuple params → Completed (Except Error returns.Carrier) × S
  /-- Errors are of the declared type. -/
  declared : ∀ state xs e, (run state xs).1 = .returned (.error e) → declares = some e.type

/-- The functions of the implementing type, by name and types. -/
structure Library (S : Type) where
  method : String → (params : List HostType) → (returns : HostType) →
    (declares : Option ErrorType) → TypedFunction S params returns declares
  constructor : String → (params : List HostType) → HostType.Tuple params →
    Completed (Except Error S)

/-- A target and the next free handle. -/
structure World (S : Type) where
  target : S
  supply : HostType.Supply

/-- What the names in a block stand for. -/
structure Scope where
  /-- The implementing type. -/
  self : Tag
  /-- The qualified name that the block declares. -/
  qualified : String
  /-- The type of host values that a type of parameters and results is. -/
  host : Ty → HostType
  /-- The type of errors that a type of errors is. -/
  error : Ty → ErrorType

/-! ## The standard names -/

namespace Source

/-- The host type of a standard name without arguments; any other one is looked up. -/
def hostOfName (other : String → HostType) (name : String) : HostType :=
  match [.i8, .i16, .i32, .i64, .isize, .u8, .u16, .u32, .u64, .usize].find?
      fun k : Number.IntegerType => k.name == name with
  | some k => .integer k
  | none =>
    match name with
    | "f32" => .single
    | "f64" => .double
    | "bool" => .bool
    | "String" => .string
    | "Value" => .value
    | _ => other name

/-- The host type of a name with one type as its argument. -/
def hostOfApplied (other : String → HostType) (name : String) (item : HostType) : HostType :=
  match name with
  | "Vec" => .list item
  | "Option" => .option item
  | _ => other name

mutual

/-- The host type that a type is where the standard names are not taken by others. -/
def Ty.host (other : String → HostType) : Ty → HostType
  | .path _ segments => segmentsHost other segments
  | .paren inner => inner.host other
  | .grouped inner => inner.host other
  | .tuple [] _ => .unit
  | t => other t.spelling

/-- The host type of a path: that of its last segment. -/
def segmentsHost (other : String → HostType) : List Segment → HostType
  | [] => other ""
  | s :: rest => if rest.isEmpty then s.host other else segmentsHost other rest

/-- The host type of a segment that ends a path. -/
def Segment.host (other : String → HostType) : Segment → HostType
  | .plain name => hostOfName other name
  | .applied name _ args _ => hostOfApplied other name (argsHost other args)
  | .called name _ => other name

/-- The host type of the first type among arguments. -/
def argsHost (other : String → HostType) : List Arg → HostType
  | [] => other ""
  | a :: rest =>
    match a with
    | .type t => t.host other
    | _ => argsHost other rest

end

end Source

/-- The scope of a block that leaves the standard names alone. -/
def Scope.standard (self : Tag) (other : String → HostType) : Scope where
  self := self
  qualified := self.name
  host := Ty.host other
  error t := .application t.spelling

namespace Expansion

variable {H S : Type} (scope : Scope)

/-! ## Results and parameters -/

/-- The type of the result; for a fallible function that of a success. -/
def Output.returns : Output → HostType
  | .unit => .unit
  | .plain t => scope.host t
  | .fallible ok _ => scope.host ok

/-- The error type that the result declares. -/
def Output.declares : Output → Option ErrorType
  | .fallible _ err => some (scope.error err)
  | _ => none

/-- The types of parameters. -/
def hosts (params : List Binding) : List HostType := params.map fun b => scope.host b.type

/-- The descriptor that a note stands for. -/
def TypeNote.desc : TypeNote → Desc
  | .native spelling => .native spelling
  | .unrepresentable spelling => .unrepresentable spelling
  | .converted t => (scope.host t).desc

/-- A declared parameter. -/
def ParamNote.param (p : ParamNote) : Param := ⟨p.name, p.type.desc scope⟩

/-! ## Thunks -/

/-- What a thunk makes of the end of the function that it calls. -/
def writeResult (returns : HostType) : Completed (Except Error returns.Carrier) →
    HostType.Supply → Reply Value × HostType.Supply
  | .returned (.ok y), supply =>
    let (v, supply) := (returns.encode y).run supply
    (.ok v, supply)
  | .returned (.error e), supply => (.failed (.raised e), supply)
  | .panicked p, supply => (.panicked p, supply)

/-- The implementation that a thunk stands for: it decodes the arguments in order, fails as the
first one that does not decode, and calls the function. -/
def ThunkCode.original (t : ThunkCode) (fn : TypedFunction S (hosts scope t.params)
    (t.output.returns scope) (t.output.declares scope)) : Original (World S) where
  needs := if t.exclusive then .exclusive else .shared
  run world args :=
    match HostType.decodeFrom args (hosts scope t.params) 0 with
    | .error f => (.failed f, world)
    | .ok xs =>
      let (ended, target) := fn.run world.target xs
      let (reply, supply) := writeResult _ ended world.supply
      (reply, ⟨target, supply⟩)

/-! ## The declared surface -/

/-- The declared signature. -/
def SignatureCode.signature (s : SignatureCode) : Signature where
  name := s.name
  params := s.params.map (ParamNote.param scope)
  returns := (s.returns.map (TypeNote.desc scope)).getD .unit
  failure := s.failure
  receiver := s.receiver
  visibility := s.visibility
  isFinal := s.isFinal

/-- The declared method. Its thunk calls the function of its name. -/
def MethodCode.method (lib : Library S) (m : MethodCode) : Method (World S) where
  signature := m.signature.signature scope
  original := m.thunk.map fun t => t.original scope (lib.method m.signature.name _ _ _)

/-- What the thunk of a constructor makes of its end. The new target has made no handle yet. -/
def built : Completed (Except Error S) → Reply (World S)
  | .returned (.ok target) => .ok ⟨target, 0⟩
  | .returned (.error e) => .failed (.raised e)
  | .panicked p => .panicked p

/-- The declared constructor. -/
def ConstructorCode.constructor (lib : Library S) (c : ConstructorCode) :
    Constructor (World S) where
  name := c.name
  params := c.params.map (ParamNote.param scope)
  visibility := c.visibility
  build := c.build.map fun (params, _) args =>
    match HostType.decodeFrom args (hosts scope params) 0 with
    | .error f => .failed f
    | .ok xs => built (lib.constructor c.name _ xs)

/-! ## The wrapper -/

/-- How a wrapper method finishes its call. -/
def WrapperCode.finish (w : WrapperCode) : Finish :=
  ⟨w.output.returns scope, w.output.declares scope, w.name⟩

/-- The access that a wrapper method has to its proxy. -/
def WrapperCode.access (w : WrapperCode) : Access := if w.exclusive then .exclusive else .shared

/-- A call of a wrapper method on a proxy: what its caller sees, and the world that it leaves. One
that is not intercepted calls the function on the target. -/
def WrapperCode.call (lib : Library S) (w : WrapperCode) (p : ProxyType (World S))
    (icp : Interceptor H (World S)) (xs : HostType.Tuple (hosts scope w.params))
    (world : World S) (hooks : H) : (w.finish scope).Seen × World S :=
  match w.index with
  | none =>
    let (ended, target) :=
      (lib.method w.name _ (w.output.returns scope) (w.output.declares scope)).run world.target xs
    (ended, { world with target })
  | some index =>
    let (args, supply) := (HostType.encodeAll _ xs).run world.supply
    let ending := Instance.call ⟨p, { world with supply }⟩ icp w.access index args hooks
    ((w.finish scope).observe ending.reply, ending.state)

end Expansion

/-- The declared surface of an expansion. -/
def Expansion.surface {S : Type} (scope : Scope) (lib : Library S) (e : Expansion) :
    Surface (World S) where
  type := scope.self
  qualified := scope.qualified
  simple := e.simple
  isSealed := e.isSealed
  constructors := e.constructors.map (ConstructorCode.constructor scope lib)
  methods := e.methods.map (MethodCode.method scope lib)

end Interpose
