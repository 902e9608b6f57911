import Interpose.Source.Code
import Interpose.Source.Function

/-!
# Reading functions and blocks

Model of how `syn` parses `ImplItemFn` and `ItemImpl`.

* `Function.read?` : an associated function from its text.
* `Block.read?` : a block of associated items from its text.
-/

namespace Interpose.Source

namespace Grammar

open Reader

variable (g : Grammar)

/-! ## Generic parameters and conditions -/

/-- A generic parameter, and whether it is a lifetime. -/
def genericParameter : Reader (Bool × List Token) := do
  let attrs := attributeTokens (← attributes g beginsWithOuter)
  if ← test (fun ts => ts.head?.any fun t => t matches .lifetime _) then
    return (true, attrs ++ (← lifetimeParameter))
  else if ← word? "const" then
    let name ← anyWord
    mark ":"
    let type ← g.type true
    let value ← if ← mark? "=" then
        pure (Token.mark '=' false :: (← constantOrType g))
      else pure []
    return (false, attrs ++ [.word "const", .word name, .mark ':' false] ++ type.tokens ++ value)
  else
    let name ← anyWord
    let limits ← if ← mark? ":" then bounds? g else pure []
    let value ← if ← mark? "=" then
        pure (Token.mark '=' false :: (← g.type true).tokens)
      else pure []
    return (false, attrs ++ .word name ::
      (if limits.isEmpty then [] else .mark ':' false :: limits) ++ value)

/-- Generic parameters, if there are any. -/
def generics : Reader Generics := do
  if ← mark? "<" then
    let (items, trailing) ← listed (beginsWith ">") (genericParameter g)
    mark ">"
    return ⟨items, trailing⟩
  else return ⟨[], false⟩

/-- One condition on a lifetime or a type. -/
def condition : Reader (List Token) := do
  let subject ← match ← lifetime? with
    | some l => pure [Token.lifetime l]
    | none => do
      let range ← binder?
      pure (range ++ (← g.type false).tokens)
  mark ":"
  return subject ++ .mark ':' false :: (← bounds? g)

/-- Do the conditions end here? -/
def endsConditions (ts : List Token) : Bool :=
  ts.isEmpty || beginsWithGroup .brace ts || beginsWith ";" ts || beginsWith "=" ts

/-- The conditions behind `where`, if it is there. -/
def conditions : Reader (Option (List Token)) := do
  if ← word? "where" then
    let (items, trailing) ← listed endsConditions (condition g)
    return some (commaList items trailing)
  else return none

/-! ## Functions -/

/-- The visibility of an item. -/
def visibility : Reader VisibilityMark := do
  if ← word? "pub" then
    if ← test (beginsWithGroup .paren) then return .restricted (← group .paren)
    else return .exported
  else return .inherited

/-- Is a receiver next? -/
def beginsWithReceiver : List Token → Bool
  | .word "self" :: _ => true
  | .word "mut" :: .word "self" :: _ => true
  | .mark '&' _ :: .word "self" :: _ => true
  | .mark '&' _ :: .word "mut" :: .word "self" :: _ => true
  | .mark '&' _ :: .lifetime _ :: .word "self" :: _ => true
  | .mark '&' _ :: .lifetime _ :: .word "mut" :: .word "self" :: _ => true
  | _ => false

/-- A receiver. -/
def receiverForm : Reader ReceiverForm := do
  if ← mark? "&" then
    let lifetime ← lifetime?
    let exclusive ← word? "mut"
    word "self"
    return .reference lifetime exclusive
  else
    let rebound ← word? "mut"
    word "self"
    if ← mark? ":" then return .typed rebound (← g.type true) else return .value rebound

/-- What may stand in the parentheses of a function. -/
inductive Input where
  | receiver (r : ReceiverParameter)
  | parameter (p : Parameter)
  | variadic (code : List Token)

/-- A receiver, a parameter, or the sign for any further arguments. -/
def input : Reader Input := do
  let attrs ← attributes g beginsWithOuter
  if ← test beginsWithReceiver then return .receiver ⟨attrs, ← receiverForm g⟩
  else if ← mark? "..." then return .variadic (attributeTokens attrs ++ operator "...")
  else
    let pattern ← codeBefore g beginsWithColon false
    mark ":"
    if ← mark? "..." then
      return .variadic (attributeTokens attrs ++ pattern ++ .mark ':' false :: operator "...")
    else return .parameter ⟨attrs, pattern, ← g.type true⟩

/-- A function behind its attributes, up to its body. -/
def signature (attrs : List Attribute) : Reader Function := do
  let visibility ← visibility
  let isDefault ← word? "default"
  let isConst ← word? "const"
  let isAsync ← word? "async"
  let isUnsafe ← word? "unsafe"
  let convention ← if ← word? "extern" then some <$> literal? else pure none
  word "fn"
  let name ← anyWord
  let generics ← generics g
  let (inputs, trailing) ← listedWithin (← group .paren) (input g)
  let result ← if ← mark? "->" then some <$> g.type true else pure none
  let conditions ← conditions g
  return {
    attributes := attrs
    visibility, isDefault, isConst, isAsync, isUnsafe, convention, name, generics
    receiver := inputs.findSome? fun
      | .receiver r => some r
      | _ => none
    parameters := inputs.filterMap fun
      | .parameter p => some p
      | _ => none
    trailing
    variadic := inputs.findSome? fun
      | .variadic code => some code
      | _ => none
    result, conditions
    body := [] }

/-- The function with the body in braces that is next. -/
def withBody (f : Function) : Reader Function := do
  within (← group .brace) do
    let inner ← attributes g beginsWithInner
    return { f with
      attributes := f.attributes ++ inner
      body := ← codeBefore g List.isEmpty true }

/-- A function from its attributes on. -/
def function : Reader Function := do
  withBody g (← signature g (← attributes g beginsWithOuter))

/-! ## Items -/

/-- The tokens that were taken between two states. -/
def taken (before after : List Token) : List Token := before.take (before.length - after.length)

/-- The words that may stand before `fn`. -/
def isHeaderToken : Token → Bool
  | .word s => ["const", "async", "unsafe", "extern"].contains s
  | .literal _ => true
  | _ => false

/-- Is a function next, behind its visibility? -/
def beginsWithHeader (ts : List Token) : Bool :=
  beginsWithWord "fn" (ts.dropWhile isHeaderToken)

/-- A constant behind its visibility, up to its semicolon, if it has a value and no parameters. -/
def constantItem? : Reader (Option (List Token)) := do
  word "const"
  let name ← anyWord
  let generics ← generics g
  mark ":"
  let type ← g.type true
  let value ← if ← mark? "=" then
      some <$> codeBefore g endsValue false
    else pure none
  let conditions ← conditions g
  mark ";"
  match value with
  | some value =>
    if generics.items.isEmpty && conditions.isNone then
      return some ([.word "const", .word name, .mark ':' false] ++ type.tokens ++
        .mark '=' false :: value ++ [.mark ';' false])
    else return none
  | none => return none
where
  endsValue (ts : List Token) : Bool := beginsWith ";" ts || beginsWithWord "where" ts

/-- A type alias behind its visibility, up to its semicolon, if it has a type and no bounds. -/
def aliasItem? : Reader (Option (List Token)) := do
  word "type"
  let name ← anyWord
  let generics ← generics g
  let bounded ← mark? ":"
  let limits ← if bounded then bounds? g else pure []
  let type ← if ← mark? "=" then some <$> g.type true else pure none
  let conditions ← conditions g
  mark ";"
  match type with
  | some type =>
    if bounded || !limits.isEmpty then return none
    else return some ([.word "type", .word name] ++ generics.tokens ++ .mark '=' false ::
      type.tokens ++ conditionTokens conditions ++ [.mark ';' false])
  | none => return none

/-- An invocation that generates items. -/
def generatedItem : Reader (List Token) := do
  let (rooted, path) ← plainPath
  let name ← invocation
  let closing ← if ← mark? ";" then pure [Token.mark ';' false] else pure []
  return rootTokens rooted ++ Attribute.pathTokens path ++ name ++ closing

/-- An item of a block. Functions without a body, and constants and aliases in a form that a block
does not admit, keep their own tokens. -/
def item : Reader Item := do
  let before ← get
  let attrs ← attributes g beginsWithOuter
  let start ← get
  let visibility ← visibility
  let isDefault ← if ← test (fun ts => !beginsWith "!" (ts.drop 1)) then word? "default"
    else pure false
  let shown := attributeTokens attrs ++ visibility.tokens ++
    if isDefault then [.word "default"] else []
  if ← test beginsWithHeader then
    set start
    let f ← signature g attrs
    if ← mark? ";" then return .other (taken before (← get))
    else return .function (← withBody g f)
  else if ← test (beginsWithWord "const") then
    match ← constantItem? g with
    | some code => return .other (shown ++ code)
    | none => return .other (taken before (← get))
  else if ← test (beginsWithWord "type") then
    match ← aliasItem? g with
    | some code => return .other (shown ++ code)
    | none => return .other (taken before (← get))
  else return .other (shown ++ (← generatedItem))

/-! ## Blocks -/

/-- Do generic parameters follow, and not a type in angle brackets? -/
def beginsWithGenerics : List Token → Bool
  | .mark '<' _ :: .mark '>' _ :: _ => true
  | .mark '<' _ :: .mark '#' _ :: _ => true
  | .mark '<' _ :: .word "const" :: _ => true
  | .mark '<' _ :: t :: rest =>
    (t matches .word _ | .lifetime _) &&
      (beginsWith ">" rest || beginsWith "," rest || beginsWithColon rest || beginsWith "=" rest)
  | _ => false

/-- A block of associated items. A denial that no trait follows is kept as it is written, in place
of the implementing type. -/
def block : Reader Block := do
  let attrs ← attributes g beginsWithOuter
  let isDefault ← word? "default"
  let isUnsafe ← word? "unsafe"
  word "impl"
  let generics ← if ← test beginsWithGenerics then generics g else pure ⟨[], false⟩
  let denied ← if ← test (fun ts => !beginsWithGroup .brace (ts.drop 1)) then mark? "!"
    else pure false
  let first ← g.type true
  let head := (if denied then [Token.mark '!' false] else []) ++ first.tokens
  let trait ← if ← word? "for" then pure (some head) else pure none
  let selfType ← if trait.isSome then g.type true
    else pure (if denied then .written .generated head else first)
  let conditions ← conditions g
  within (← group .brace) do
    let inner ← attributes g beginsWithInner
    let items ← repeated do
      if ← test List.isEmpty then return none else some <$> item g
    return {
      attributes := attrs ++ inner
      isDefault, isUnsafe, generics, trait, selfType, conditions, items }

end Grammar

/-- The function of a text. -/
def Function.read? (text : String) : Option Function := do
  readAll? Grammar.function (← readTokens? text)

/-- The block of a text. -/
def Block.read? (text : String) : Option Block := do
  readAll? Grammar.block (← readTokens? text)

end Interpose.Source
