import Interpose.Source.Attribute
import Interpose.Source.Reader
import Interpose.Source.Ty

/-!
# Reading types

Model of how `syn` parses `Type`, `Path`, `TypeParamBound` and `Attribute`.

The readers for types, paths, bounds and attributes. Types hold code (the length of an array, a
constant argument) and code holds types, so a reader takes what it nests from the grammar one
level down; `Interpose.Source.Code` ties the levels together.

Tokens are put together anew from what is read: `>>` at the end of nested arguments becomes two
signs, an empty list of bounds leaves no colon behind.
-/

namespace Interpose.Source

/-- The readers of what is nested. -/
structure Grammar where
  /-- A type; `plus` allows a sum of bounds where a type is expected. -/
  type (plus : Bool) : Reader Ty
  /-- A path in a type, perhaps with parameters in parentheses at its end. -/
  path : Reader (Bool × List Segment)
  /-- Bounds with a plus between them; a single one unless `plus`. -/
  bounds (plus : Bool) : Reader (List Token)
  /-- The tokens of code put together anew; `start` at the start of a statement. -/
  code (start : Bool) (body : List Token) : Option (List Token)

namespace Grammar

open Reader

variable (g : Grammar)

/-- Code that takes up all that is left. -/
def restAsCode : Reader (List Token) := fun ts => (g.code false ts).map (·, [])

/-! ## Attributes -/

/-- The words of a path without arguments. -/
def plainPath : Reader (Bool × List String) := do
  let rooted ← mark? "::"
  let first ← anyWord
  let more ← repeated do if ← mark? "::" then some <$> anyWord else return none
  return (rooted, first :: more)

/-- What an attribute hands to its tool; the tokens of a list stay as they are. -/
def attributeInput : Reader AttributeInput := do
  if ← mark? "=" then .value <$> restAsCode g
  else if ← test List.isEmpty then return .nothing
  else
    match ← next with
    | .group d body => return .list d body
    | _ => failure

/-- An attribute from its sign on. -/
def anAttribute : Reader Attribute := do
  mark "#"
  let inner ← mark? "!"
  within (← group .bracket) do
    let (rooted, path) ← plainPath
    return { inner, rooted, path, input := ← attributeInput g }

/-- Is an outer attribute next? -/
def beginsWithOuter : List Token → Bool
  | .mark '#' _ :: .group .bracket _ :: _ => true
  | _ => false

/-- Is an inner attribute next? -/
def beginsWithInner : List Token → Bool
  | .mark '#' _ :: .mark '!' _ :: .group .bracket _ :: _ => true
  | _ => false

/-- The attributes of one kind, as many as there are. -/
def attributes (isNext : List Token → Bool) : Reader (List Attribute) := repeated do
  if ← test isNext then some <$> anAttribute g else return none

/-! ## Bounds -/

/-- The tokens behind `->`, if there is a result. -/
def result? (plus : Bool) : Reader (List Token) := do
  if ← mark? "->" then return operator "->" ++ (← g.type plus).tokens else return []

/-- Lifetimes with a plus between them. -/
def lifetimeBounds : Reader (List Token) := do
  let found ← repeated do
    match ← lifetime? with
    | some l => return some (Token.lifetime l :: if ← mark? "+" then [.mark '+' false] else [])
    | none => return none
  return found.flatten

/-- A lifetime with its bounds; without any, the colon goes. -/
def lifetimeParameter : Reader (List Token) := do
  match ← lifetime? with
  | some l =>
    let limits ← if ← mark? ":" then lifetimeBounds else pure []
    return .lifetime l :: if limits.isEmpty then [] else .mark ':' false :: limits
  | none => failure

/-- The lifetimes that a bound or a function type ranges over. -/
def binder : Reader (List Token) := do
  word "for"
  mark "<"
  let (items, trailing) ← listed (beginsWith ">") lifetimeParameter
  mark ">"
  return .word "for" :: .mark '<' false :: commaList items trailing ++ [.mark '>' false]

/-- A binder, if there is one. -/
def binder? : Reader (List Token) := do
  if ← test (beginsWithWord "for") then binder else return []

/-- Can a bound be next? -/
def beginsWithBound : List Token → Bool
  | .word _ :: _ => true
  | .lifetime _ :: _ => true
  | .group .paren _ :: _ => true
  | ts => beginsWith "?" ts || beginsWith "::" ts

/-- One bound. -/
def bound : Reader (List Token) := do
  if let some l ← lifetime? then return [.lifetime l]
  if ← test (beginsWithGroup .paren) then
    return [parens (← within (← group .paren) (g.bounds false))]
  let modifier := if ← mark? "?" then [Token.mark '?' false] else []
  let range ← binder?
  let (rooted, segments) ← g.path
  return modifier ++ range ++ (Ty.path rooted segments).tokens

/-- Bounds with a plus between them, and perhaps one behind the last. -/
def someBounds (plus : Bool) : Reader (List Token) := do
  let first ← bound g
  if plus then
    if ← mark? "+" then
      let more ← if ← test beginsWithBound then g.bounds true else pure []
      return first ++ .mark '+' false :: more
  return first

/-- Bounds where there may be none. -/
def bounds? : Reader (List Token) := do
  if ← test beginsWithBound then g.bounds true else return []

/-! ## Paths -/

/-- Is a constant next? Words for truth values and negated numbers count. -/
def beginsWithConstant : List Token → Bool
  | .literal _ :: _ => true
  | .word s :: _ => s == "true" || s == "false"
  | .mark '-' _ :: .literal _ :: _ => true
  | .group .brace _ :: _ => true
  | _ => false

/-- A constant where a type could stand: a literal or a block. -/
def constant : Reader (List Token) := do
  match ← next with
  | .group _ body => fun ts => (g.code true body).map fun code => ([braces code], ts)
  | .mark _ _ => return [.mark '-' false, ← next]
  | t => return [t]

/-- A constant or a type, as tokens. -/
def constantOrType : Reader (List Token) := do
  if ← test beginsWithConstant then constant g else Ty.tokens <$> g.type true

/-- One argument in angle brackets. A name that `=` or a colon follows is a named argument. -/
def argument : Reader Arg := do
  if ← test (fun ts => !beginsWith "+" (ts.drop 1)) then
    if let some l ← lifetime? then return .lifetime l
  if ← test beginsWithConstant then return .value (← constant g)
  match ← g.type true with
  | .path false [segment] =>
    if ← mark? "=" then
      return .named (segment.tokens ++ .mark '=' false :: (← constantOrType g))
    else if ← test beginsWithColon then
      mark ":"
      return .named (segment.tokens ++ .mark ':' false :: (← bounds? g))
    else return .type (.path false [segment])
  | t => return .type t

/-- The arguments behind the opening angle bracket, up to and with the closing one. -/
def angleArguments : Reader (List Arg × Bool) := do
  let found ← listed (beginsWith ">") (argument g)
  mark ">"
  return found

/-- Do arguments in angle brackets follow a `::`? -/
def beginsWithTurbofish (ts : List Token) : Bool :=
  beginsWith "::" ts && beginsWith "<" (ts.drop 2)

/-- A segment of a path in a type. -/
def segment : Reader Segment := do
  let name ← anyWord
  let turbofish ← test beginsWithTurbofish
  if turbofish then mark "::"
  if ← mark? "<" then
    let (args, trailing) ← angleArguments g
    return .applied name turbofish args trailing
  else return .plain name

/-- Does a path go on with parameters in parentheses? -/
def goesOnWithCall (ts : List Token) : Bool :=
  beginsWithGroup .paren ts || (beginsWith "::" ts && beginsWithGroup .paren (ts.drop 2))

/-- Segments with `::` between any two of them. If the last one has no arguments, it may have
parameters in parentheses; a `::` before them goes. -/
def segments : Reader (List Segment) := do
  let first ← segment g
  let more ← repeated do
    if ← test (fun ts => beginsWith "::" ts && !beginsWithGroup .paren (ts.drop 2)) then
      mark "::"
      some <$> segment g
    else return none
  let found := first :: more
  match found.getLast? with
  | some (.plain name) =>
    if ← test goesOnWithCall then
      let _ ← mark? "::"
      let (items, trailing) ← listedWithin (← group .paren) (g.type true)
      let call := parens (commaList (items.map Ty.tokens) trailing) :: (← result? g false)
      return found.dropLast ++ [.called name call]
    else return found
  | _ => return found

/-- A path in a type. -/
def aPath : Reader (Bool × List Segment) := do
  let rooted ← mark? "::"
  return (rooted, ← segments g)

/-- A type in angle brackets, and the trait that it is taken to implement. -/
def memberHead : Reader (Ty × Bool × List Segment) := do
  mark "<"
  let self ← g.type true
  let (rooted, trait) ← if ← word? "as" then g.path else pure (false, [])
  mark ">"
  return (self, rooted, trait)

/-- A type in angle brackets and the path through it. -/
def member : Reader Ty := do
  let (self, rooted, trait) ← memberHead g
  mark "::"
  return .member self rooted trait (← segments g)

/-! ## Types -/

/-- A parameter of a function type, perhaps with attributes and a name. -/
def functionParameter : Reader (List Token) := do
  let attrs ← attributes g beginsWithOuter
  let named ← test fun ts =>
    match ts with
    | .word _ :: rest => beginsWithColon rest
    | _ => false
  let name ← if named then do
      let name ← anyWord
      mark ":"
      pure [.word name, .mark ':' false]
    else pure []
  let type ← if ← mark? "..." then pure (operator "...") else Ty.tokens <$> g.type true
  return attrs.flatMap Attribute.tokens ++ name ++ type

/-- What may stand before `fn`: words, and for a foreign convention perhaps its name. -/
def qualifiers (allowed : List String) : Reader (List Token) := do
  let found ← repeated do
    if ← test (fun ts => allowed.any fun w => beginsWithWord w ts) then
      let w ← anyWord
      let name ← if w = "extern" then literal? else pure none
      return some (Token.word w :: name.toList.map .literal)
    else return none
  return found.flatten

/-- A function type from its qualifiers on. -/
def functionType (plus : Bool) (range : List Token) : Reader Ty := do
  let before ← qualifiers ["unsafe", "extern"]
  word "fn"
  let (items, trailing) ← listedWithin (← group .paren) (functionParameter g)
  let result ← result? g plus
  return .written .function
    (range ++ before ++ [.word "fn", parens (commaList items trailing)] ++ result)

/-- Is a function type next? -/
def beginsWithFunction (ts : List Token) : Bool :=
  ["fn", "unsafe", "extern"].any fun w => beginsWithWord w ts

/-- A type in front of further bounds is a trait object, where a sum is allowed. -/
def objectOr (plus : Bool) (t : Ty) : Reader Ty := do
  if plus then
    if ← mark? "+" then
      return .written .dynamic (t.tokens ++ .mark '+' false :: (← bounds? g))
  return t

/-- A type that starts with a path: the path, an invocation that generates a type, or the first
bound of a trait object. -/
def pathType (plus : Bool) : Reader Ty := do
  let (rooted, segments) ← g.path
  let path := Ty.path rooted segments
  if ← test (fun ts => beginsWith "!" ts && !beginsWith "!=" ts) then
    mark "!"
    return .written .generated (path.tokens ++ [.mark '!' false, ← next])
  else objectOr g plus path

/-- A type in parentheses, a tuple, or a bound in parentheses. -/
def parenType (plus : Bool) : Reader Ty := do
  let body ← group .paren
  if body.head?.any (fun t => t matches .lifetime _) || beginsWith "?" body then
    objectOr g plus (.written .dynamic [parens (← within body (g.bounds true))])
  else
    match ← listedWithin body (g.type true) with
    | ([item], false) => objectOr g plus (.paren item)
    | (items, trailing) => return .tuple items trailing

/-- A slice or an array. -/
def bracketType : Reader Ty := do
  within (← group .bracket) do
    let item ← g.type true
    if ← mark? ";" then return .array item (← restAsCode g) else return .slice item

/-- A type. -/
def aType (plus : Bool) : Reader Ty := do
  if ← test (beginsWithGroup .paren) then parenType g plus
  else if ← test (beginsWithGroup .bracket) then bracketType g
  else if ← mark? "&" then
    let lifetime ← lifetime?
    let exclusive ← word? "mut"
    return .reference lifetime exclusive (← g.type false)
  else if ← mark? "*" then
    let writable ← word? "mut"
    if !writable then word "const"
    return .pointer writable (← g.type false)
  else if ← mark? "!" then return .never
  else if ← word? "_" then return .inferred
  else if ← test (fun ts => beginsWith "<" ts) then member g
  else if ← word? "dyn" then return .written .dynamic (.word "dyn" :: (← g.bounds plus))
  else if ← word? "impl" then return .written .implementer (.word "impl" :: (← g.bounds plus))
  else if ← test (fun ts => ts.head?.any fun t => t matches .lifetime _) then
    return .written .dynamic (← g.bounds plus)
  else if ← test beginsWithFunction then functionType g plus []
  else if ← test (beginsWithWord "for") then
    let range ← binder
    if ← test beginsWithFunction then functionType g plus range
    else
      let (rooted, segments) ← g.path
      objectOr g plus (.written .dynamic (range ++ (Ty.path rooted segments).tokens))
  else pathType g plus

end Grammar

end Interpose.Source
