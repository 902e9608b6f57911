import Interpose.Source.Function
import Interpose.Source.Keyword

/-!
# Arguments of attributes

Model of `ProxyableArgs::parse` of `veneer_macros::proxyable` and of `method_flags` of
`veneer_macros::classify`.

The attribute on a block takes settings, the one on a method takes flags: named properties with a
comma between them, and perhaps one behind the last. A property is read before the comma behind
it is looked for, so a property that is not known is reported before anything that follows it.

* `Settings.ofTokens` : the settings of a block; the last word on a setting stands.
* `Flags.ofAttributes` : the flags of a method, from all of its attributes.
-/

namespace Interpose.Expansion

open Source

/-- What can be wrong with the arguments of an attribute. Where `atEnd` is set, there is nothing
left to read. -/
inductive ArgumentError where
  | missingProperty
  | literalForProperty
  | signForProperty
  | missingSegment (atEnd : Bool)
  | missingComma
  | missingValue
  | textExpected (atEnd : Bool)
  | nameExpected (atEnd : Bool)
  | reservedName (word : String)
  | unknownSetting
  | unknownFlag
  /-- An attribute without a list. -/
  | listMissing (inner : Bool)
  /-- An attribute with a value in place of a list. -/
  | valueForList (inner : Bool)
deriving DecidableEq, Repr

namespace ArgumentError

/-- The text of a complaint, which says so if nothing is left to read. -/
def complaint (atEnd : Bool) (s : String) : String :=
  if atEnd then "unexpected end of input, " ++ s else s

/-- The list that was expected of an attribute. -/
def listForm (inner : Bool) : String :=
  if inner then "#![proxy(...)]" else "#[proxy(...)]"

/-- The message. -/
def message : ArgumentError → String
  | .missingProperty => complaint true "expected nested attribute"
  | .literalForProperty => "unexpected literal in nested attribute, expected ident"
  | .signForProperty => "unexpected token in nested attribute, expected ident"
  | .missingSegment atEnd => complaint atEnd "expected ident"
  | .missingComma => "expected `,`"
  | .missingValue => "expected `=`"
  | .textExpected atEnd => complaint atEnd "expected string literal"
  | .nameExpected atEnd => complaint atEnd "expected identifier"
  | .reservedName w => "expected identifier, found keyword `" ++ w ++ "`"
  | .unknownSetting =>
    "unsupported proxyable property (expected `sealed`, `name` or `wrapper`)"
  | .unknownFlag => "expected `final` or `skip`"
  | .listMissing inner =>
    "expected attribute arguments in parentheses: " ++ listForm inner
  | .valueForList inner => "expected parentheses: " ++ listForm inner

end ArgumentError

/-! ## Lists of properties -/

/-- One place in the list: its tokens, and whether a comma follows them. -/
structure Entry where
  tokens : List Token
  closed : Bool

/-- Splits a list at its commas. Behind the last comma there need not be an entry. -/
def entries : List Token → List Entry
  | [] => []
  | .mark ',' _ :: rest => ⟨[], true⟩ :: entries rest
  | t :: rest =>
    match entries rest with
    | [] => [⟨[t], false⟩]
    | e :: more => { e with tokens := t :: e.tokens } :: more

/-- The path of a property. Reserved words may stand in it. -/
structure PropertyPath where
  rooted : Bool
  names : List String
deriving DecidableEq, Repr

/-- Is the path this bare name? -/
def PropertyPath.isNamed (p : PropertyPath) (name : String) : Bool :=
  !p.rooted && p.names == [name]

/-- The further segments of a path. -/
def moreSegments (closed : Bool) :
    List Token → Except ArgumentError (List String × List Token)
  | .mark ':' true :: .mark ':' _ :: .word s :: rest => do
    let (names, rest) ← moreSegments closed rest
    return (s :: names, rest)
  | .mark ':' true :: .mark ':' _ :: rest => .error (.missingSegment (rest.isEmpty && !closed))
  | rest => .ok ([], rest)

/-- The path at the head of an entry. -/
def propertyPath (e : Entry) : Except ArgumentError (PropertyPath × List Token) :=
  match e.tokens with
  | .mark ':' true :: .mark ':' _ :: rest => first true rest
  | ts => first false ts
where
  first (rooted : Bool) : List Token → Except ArgumentError (PropertyPath × List Token)
    | .word s :: rest => do
      let (names, rest) ← moreSegments e.closed rest
      return (⟨rooted, s :: names⟩, rest)
    | .literal _ :: _ => .error .literalForProperty
    | .mark '-' _ :: .literal s :: _ =>
      if s.toList.head?.any Char.isDigit then .error .literalForProperty
      else .error .signForProperty
    | [] => .error (if e.closed then .signForProperty else .missingProperty)
    | _ => .error .signForProperty

/-- Reads the entries in order. `step` reads one property behind its path and says what is left of
the entry. -/
def readEntries {σ : Type}
    (step : σ → PropertyPath → Bool → List Token → Except ArgumentError (σ × List Token)) :
    σ → List Entry → Except ArgumentError σ
  | s, [] => .ok s
  | s, e :: more => do
    let (path, rest) ← propertyPath e
    let (s, rest) ← step s path e.closed rest
    if rest.isEmpty then readEntries step s more else .error .missingComma

/-! ## Settings of a block -/

/-- The settings of a block. -/
structure Settings where
  /-- Can the type not be proxied? -/
  isSealed : Bool
  /-- The literal of the qualified name, if one is given. -/
  name : Option String
  /-- The name of the wrapper, if one is given. -/
  wrapper : Option String
deriving DecidableEq, Repr

/-- No setting is given. -/
def Settings.none : Settings := ⟨false, .none, .none⟩

/-- What follows the equals sign. -/
def afterEquals : List Token → Except ArgumentError (List Token)
  | .mark '=' _ :: rest => .ok rest
  | _ => .error .missingValue

/-- Is it the text of a string literal, plain or raw? -/
def isText (s : String) : Bool := s.toList.head?.any fun c => c == '"' || c == 'r'

/-- A text behind the equals sign. -/
def textValue (closed : Bool) (ts : List Token) : Except ArgumentError (String × List Token) := do
  match ← afterEquals ts with
  | .literal s :: rest => if isText s then return (s, rest) else .error (.textExpected false)
  | rest => .error (.textExpected (rest.isEmpty && !closed))

/-- A name behind the equals sign. -/
def nameValue (closed : Bool) (ts : List Token) : Except ArgumentError (String × List Token) := do
  match ← afterEquals ts with
  | .word s :: rest => if isReserved s then .error (.reservedName s) else return (s, rest)
  | rest => .error (.nameExpected (rest.isEmpty && !closed))

/-- Reads one setting. -/
def Settings.step (s : Settings) (path : PropertyPath) (closed : Bool) (ts : List Token) :
    Except ArgumentError (Settings × List Token) := do
  if path.isNamed "sealed" then return ({ s with isSealed := true }, ts)
  else if path.isNamed "name" then
    let (text, rest) ← textValue closed ts
    return ({ s with name := some text }, rest)
  else if path.isNamed "wrapper" then
    let (name, rest) ← nameValue closed ts
    return ({ s with wrapper := some name }, rest)
  else .error .unknownSetting

/-- The settings of a block. -/
def Settings.ofTokens (ts : List Token) : Except ArgumentError Settings :=
  readEntries Settings.step .none (entries ts)

/-! ## Flags of a method -/

/-- The flags of a method. -/
structure Flags where
  /-- Is the method never intercepted? -/
  isFinal : Bool
  /-- Is the method left out of the declared surface? -/
  isSkipped : Bool
deriving DecidableEq, Repr

/-- No flag is set. -/
def Flags.none : Flags := ⟨false, false⟩

/-- Reads one flag. -/
def Flags.step (f : Flags) (path : PropertyPath) (_closed : Bool) (ts : List Token) :
    Except ArgumentError (Flags × List Token) :=
  if path.isNamed "final" then .ok ({ f with isFinal := true }, ts)
  else if path.isNamed "skip" then .ok ({ f with isSkipped := true }, ts)
  else .error .unknownFlag

/-- The name of the attribute that holds flags. -/
def flagAttribute : String := "proxy"

/-- Adds the flags of one attribute. -/
def Flags.add (f : Flags) (a : Attribute) : Except ArgumentError Flags :=
  match a.input with
  | .list _ body => readEntries Flags.step f (entries body)
  | .nothing => .error (.listMissing a.inner)
  | .value _ => .error (.valueForList a.inner)

/-- The flags of a method, from all of its attributes. -/
def Flags.ofAttributes (attributes : List Attribute) : Except ArgumentError Flags :=
  (attributes.filter (·.isNamed flagAttribute)).foldlM Flags.add .none

end Interpose.Expansion
