import Interpose.Source.Token

/-!
# Types of the host language

Model of `syn::Type` and of its tokens, as `veneer_macros::classify` and `veneer_macros::proxyable`
look at them.

The syntax of a type as far as it decides what can cross the value boundary: paths with their
arguments, parentheses and groups without brackets, tuples, references, pointers, slices and arrays.
Function types, trait objects, anonymous implementers and types that a code generator stands for
never cross it; they are kept as they are written.

* `Ty.tokens` : the tokens of a type. Generic arguments show lifetimes first.
* `Ty.spelling` : their text.
-/

namespace Interpose.Source

/-- The forms of a type that are kept as written. -/
inductive TyForm where
  /-- A pointer to a function. -/
  | function
  /-- A trait object. -/
  | dynamic
  /-- An anonymous type with given bounds. -/
  | implementer
  /-- An invocation that generates the type. -/
  | generated
  /-- Tokens in the place of a type that are not taken apart. -/
  | verbatim
deriving DecidableEq, Repr, Inhabited

mutual

/-- A type. -/
inductive Ty where
  /-- A path of segments; a rooted one starts with `::`. -/
  | path (rooted : Bool) (segments : List Segment)
  /-- A path through a type in angle brackets, taken as an implementer of a trait if `trait` is
  not empty. -/
  | member (self : Ty) (rooted : Bool) (trait : List Segment) (rest : List Segment)
  | paren (inner : Ty)
  /-- A type that a code generator has put in; no text reads as one. -/
  | grouped (inner : Ty)
  | tuple (items : List Ty) (trailing : Bool)
  | reference (lifetime : Option String) (exclusive : Bool) (target : Ty)
  | pointer (writable : Bool) (target : Ty)
  | slice (item : Ty)
  | array (item : Ty) (length : List Token)
  | never
  | inferred
  | written (form : TyForm) (text : List Token)

/-- A segment of a path. -/
inductive Segment where
  | plain (name : String)
  /-- With arguments in angle brackets, perhaps behind `::`. -/
  | applied (name : String) (turbofish : Bool) (args : List Arg) (trailing : Bool)
  /-- With arguments in parentheses, and perhaps a result. -/
  | called (name : String) (text : List Token)

/-- An argument in angle brackets. -/
inductive Arg where
  | type (t : Ty)
  | lifetime (name : String)
  /-- A constant. -/
  | value (text : List Token)
  /-- A named argument: an associated type or constant, or bounds on one. -/
  | named (text : List Token)

end

instance : Inhabited Ty := ⟨.never⟩

/-- The name of a segment without its arguments. -/
def Segment.name : Segment → String
  | .plain name => name
  | .applied name _ _ _ => name
  | .called name _ => name

/-- A list in angle brackets whose lifetimes (marked `true`) go first, whatever their order. A
comma stays behind an item that had one, and is added where two items meet. -/
def lifetimesFirst (items : List (Bool × List Token)) (trailing : Bool) : List Token :=
  let lifetimes := items.filter (·.1)
  let others := items.filter fun item => !item.1
  let moved := !others.isEmpty && items.getLast?.any (·.1)
  commaBetween ((lifetimes ++ others).map (·.2)) ++
    if trailing || moved then [.mark ',' false] else []

/-- The items with a comma between any two of them, and one behind the last if it had one. -/
def commaList (items : List (List Token)) (trailing : Bool) : List Token :=
  commaBetween items ++ if trailing then [.mark ',' false] else []

/-- The sign of a rooted path. -/
def rootTokens (rooted : Bool) : List Token := if rooted then operator "::" else []

mutual

/-- The tokens of a type. -/
def Ty.tokens : Ty → List Token
  | .path rooted segments => rootTokens rooted ++ pathTokens segments
  | .member self rooted trait rest =>
    .mark '<' false :: self.tokens ++
      (if trait.isEmpty then [] else .word "as" :: rootTokens rooted ++ pathTokens trait) ++
      .mark '>' false :: operator "::" ++ pathTokens rest
  | .paren inner => [parens inner.tokens]
  | .grouped inner => [.group .invisible inner.tokens]
  | .tuple items trailing => [parens (commaList (tokensOf items) trailing)]
  | .reference lifetime exclusive target =>
    .mark '&' false :: (lifetime.toList.map .lifetime) ++
      (if exclusive then [.word "mut"] else []) ++ target.tokens
  | .pointer writable target =>
    [.mark '*' false, .word (if writable then "mut" else "const")] ++ target.tokens
  | .slice item => [brackets item.tokens]
  | .array item length => [brackets (item.tokens ++ .mark ';' false :: length)]
  | .never => [.mark '!' false]
  | .inferred => [.word "_"]
  | .written _ text => text

/-- The tokens of each type. -/
def tokensOf : List Ty → List (List Token)
  | [] => []
  | t :: rest => t.tokens :: tokensOf rest

/-- Segments with `::` between any two of them. -/
def pathTokens : List Segment → List Token
  | [] => []
  | s :: rest => s.tokens ++ (if rest.isEmpty then [] else operator "::") ++ pathTokens rest

/-- The tokens of a segment. -/
def Segment.tokens : Segment → List Token
  | .plain name => [.word name]
  | .applied name turbofish args trailing =>
    .word name :: rootTokens turbofish ++ .mark '<' false ::
      lifetimesFirst (argTokens args) trailing ++ [.mark '>' false]
  | .called name text => .word name :: text

/-- The tokens of each argument, lifetimes marked. -/
def argTokens : List Arg → List (Bool × List Token)
  | [] => []
  | a :: rest => a.tokens :: argTokens rest

/-- The tokens of an argument, and whether it is a lifetime. -/
def Arg.tokens : Arg → Bool × List Token
  | .type t => (false, t.tokens)
  | .lifetime name => (true, [.lifetime name])
  | .value text => (false, text)
  | .named text => (false, text)

end

/-- The text of a type. -/
def Ty.spelling (t : Ty) : String := spell t.tokens

/-- A type that is one bare name. -/
def Ty.named (name : String) : Ty := .path false [.plain name]

/-- The last segment of a path, however it begins. -/
def Ty.lastSegment? : Ty → Option Segment
  | .path _ segments => segments.getLast?
  | .member _ _ trait rest => (trait ++ rest).getLast?
  | _ => none

end Interpose.Source
