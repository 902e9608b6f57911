import Interpose.Expansion.Emission
import Interpose.Source.Declaration

/-!
# Expanding a block

Model of `veneer_macros::proxyable` (`expand_proxyable`, `check_not_shadowed`, `self_type_ident`).

From the settings and a block to its expansion. A block is refused as a whole before its functions
are looked at; then the flags of all functions are read, in source order; last, no method of the
wrapper may have the name of a method that every proxy has, because it could never be called.

* `expand` : the expansion of a block that was read.
* `expandText` : the expansion of a text.
-/

namespace Interpose.Expansion

open Source

/-- Why there is no expansion. -/
inductive ExpandError where
  /-- The arguments of an attribute cannot be read. -/
  | argument (e : ArgumentError)
  | traitBlock
  | genericBlock
  /-- The implementing type is not a path without arguments at its end. -/
  | implementer
  /-- A wrapper method has the name of a method that every proxy has. -/
  | shadowed (name : String)
deriving DecidableEq, Repr

/-- The message. -/
def ExpandError.message : ExpandError → String
  | .argument e => e.message
  | .traitBlock => "#[proxyable] applies to inherent impl blocks, not trait impls"
  | .genericBlock => "#[proxyable] does not support generic impl blocks"
  | .implementer => "#[proxyable] requires a plain, non-generic type path"
  | .shadowed name =>
    "method `" ++ name ++ "` would be shadowed by `ProxyInstance::" ++ name ++
      "`; rename it or mark it #[proxy(skip)]"

/-- The methods that every proxy has. They go before those of the wrapper. -/
def instanceMethods : List String :=
  ["target", "target_mut", "interceptor", "set_interceptor", "invoke", "proxy_type",
    "new_instance", "into_target", "call_ref", "call_mut", "from_parts"]

/-- The name of the implementing type: the end of its path. -/
def implementerName? : Ty → Option String
  | .path _ segments =>
    match segments.getLast? with
    | some (.plain name) => some name
    | _ => none
  | _ => none

/-- A name without the sign of a raw one. -/
def withoutSign (name : String) : String :=
  match name.toList with
  | 'r' :: '#' :: rest => String.ofList rest
  | _ => name

/-- The name of the wrapper that no setting names. -/
def defaultWrapper (simple : String) : String := withoutSign simple ++ "Proxy"

/-- The shapes of the functions in source order, unless the flags of one cannot be read. -/
def shapes (simple : String) (b : Block) : Except ExpandError (List Shape) :=
  (b.functions.mapM (Shape.ofFunction? simple)).mapError .argument

/-- The expansion of a block. -/
def expand (s : Settings) (b : Block) : Except ExpandError Expansion := do
  if b.trait.isSome then throw .traitBlock
  if !b.generics.items.isEmpty then throw .genericBlock
  let some simple := implementerName? b.selfType | throw .implementer
  let declared := (← shapes simple b).filter fun s => !s.isSkipped
  let constructors := declared.filter (·.isConstructor)
  let methods := declared.filter fun s => !s.isConstructor
  match methods.find? fun m => m.isWrappable && instanceMethods.contains m.name with
  | some m => throw (.shadowed m.name)
  | none =>
    return {
      block := b.without flagAttribute
      simple
      qualified := s.name
      isSealed := s.isSealed
      constructors := constructors.map ConstructorCode.ofShape
      methods := methods.map MethodCode.ofShape
      wrapper := s.wrapper.getD (defaultWrapper simple)
      wrappers := wrapperCodes methods }

/-- The expansion of a text, as a text; nothing if the text cannot be read. The settings are read
before the block. -/
def expandText (settings block : String) : Option (Except ExpandError String) := do
  match Settings.ofTokens (← readTokens? settings) with
  | .error e => return .error (.argument e)
  | .ok s => return (expand s (← Block.read? block)).map Expansion.text

/-- The shape of a function of the type `self` from its text; nothing if it cannot be read. -/
def shapeOfText (self function : String) : Option (Except ArgumentError Shape) := do
  return Shape.ofFunction? self (← Function.read? function)

end Interpose.Expansion
