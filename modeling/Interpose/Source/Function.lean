import Interpose.Source.Attribute
import Interpose.Source.Ty

/-!
# Functions and the blocks that hold them

Model of `syn::ImplItemFn` and `syn::ItemImpl`.

An associated function keeps as syntax what its classification looks at: attributes, visibility,
header, receiver, parameters and result. Bounds, patterns and bodies are kept as tokens, and so is
every item of a block that is no function.

* `Function.tokens`, `Block.tokens` : the tokens of a function and of a block.
* `Function.without`, `Block.without` : the same with attributes of one name left out.
-/

namespace Interpose.Source

/-- The visibility that is written in front of an item. -/
inductive VisibilityMark where
  /-- None. -/
  | inherited
  | exported
  /-- Limited to what the parentheses say. -/
  | restricted (scope : List Token)
deriving Repr, Inhabited

/-- The tokens of a visibility. -/
def VisibilityMark.tokens : VisibilityMark → List Token
  | .inherited => []
  | .exported => [.word "pub"]
  | .restricted scope => [.word "pub", parens scope]

/-- The forms of a receiver. -/
inductive ReceiverForm where
  /-- By value. -/
  | value (rebound : Bool)
  | reference (lifetime : Option String) (exclusive : Bool)
  /-- With its type spelled out. -/
  | typed (rebound : Bool) (type : Ty)
deriving Inhabited

/-- A receiver. -/
structure ReceiverParameter where
  attributes : List Attribute
  form : ReceiverForm
deriving Inhabited

/-- The word `mut`, where it is written. -/
def mutTokens (written : Bool) : List Token := if written then [.word "mut"] else []

/-- The tokens of a receiver without its attributes. -/
def ReceiverForm.tokens : ReceiverForm → List Token
  | .value rebound => mutTokens rebound ++ [.word "self"]
  | .reference lifetime exclusive =>
    .mark '&' false :: lifetime.toList.map .lifetime ++ mutTokens exclusive ++ [.word "self"]
  | .typed rebound type => mutTokens rebound ++ [.word "self", .mark ':' false] ++ type.tokens

/-- A parameter: a pattern and its type. -/
structure Parameter where
  attributes : List Attribute
  pattern : List Token
  type : Ty
deriving Inhabited

/-- The tokens of attributes. -/
def attributeTokens (attributes : List Attribute) : List Token :=
  attributes.flatMap Attribute.tokens

/-- Parameters of a declaration over types, lifetimes and constants. -/
structure Generics where
  /-- The parameters, lifetimes marked. -/
  items : List (Bool × List Token)
  trailing : Bool
deriving Inhabited

/-- The tokens of generic parameters; an empty list leaves nothing behind. -/
def Generics.tokens (g : Generics) : List Token :=
  if g.items.isEmpty then []
  else .mark '<' false :: lifetimesFirst g.items g.trailing ++ [.mark '>' false]

/-- The tokens of the conditions on generic parameters; an empty list leaves nothing behind. -/
def conditionTokens : Option (List Token) → List Token
  | none => []
  | some [] => []
  | some conditions => .word "where" :: conditions

/-- An associated function. -/
structure Function where
  /-- Those in front of the function and those at the head of its body. -/
  attributes : List Attribute
  visibility : VisibilityMark
  /-- May an implementation elsewhere replace it? -/
  isDefault : Bool
  isConst : Bool
  isAsync : Bool
  isUnsafe : Bool
  /-- A foreign calling convention, perhaps with a name. -/
  convention : Option (Option String)
  name : String
  generics : Generics
  receiver : Option ReceiverParameter
  parameters : List Parameter
  /-- Does a comma end the parameters? -/
  trailing : Bool
  /-- The sign for any further arguments. -/
  variadic : Option (List Token)
  result : Option Ty
  /-- The conditions behind `where`, if it is written. -/
  conditions : Option (List Token)
  body : List Token
deriving Inhabited

namespace Function

/-- The tokens of each receiver and parameter. -/
def inputTokens (f : Function) : List (List Token) :=
  (f.receiver.toList.map fun r => attributeTokens r.attributes ++ r.form.tokens) ++
    (f.parameters.map fun p =>
      attributeTokens p.attributes ++ p.pattern ++ .mark ':' false :: p.type.tokens) ++
    f.variadic.toList

/-- The words in front of `fn`. -/
def headerTokens (f : Function) : List Token :=
  (if f.isConst then [.word "const"] else []) ++ (if f.isAsync then [.word "async"] else []) ++
    (if f.isUnsafe then [.word "unsafe"] else []) ++
    match f.convention with
    | none => []
    | some name => .word "extern" :: name.toList.map .literal

/-- The tokens of a function without its attributes and its body. -/
def signatureTokens (f : Function) : List Token :=
  f.visibility.tokens ++ (if f.isDefault then [.word "default"] else []) ++ f.headerTokens ++
    [.word "fn", .word f.name] ++ f.generics.tokens ++
    [parens (commaList f.inputTokens f.trailing)] ++
    (match f.result with
    | none => []
    | some t => operator "->" ++ t.tokens) ++
    conditionTokens f.conditions

/-- The tokens of a function. -/
def tokens (f : Function) : List Token :=
  attributeTokens (f.attributes.filter fun a => !a.inner) ++ f.signatureTokens ++
    [braces (attributeTokens (f.attributes.filter (·.inner)) ++ f.body)]

/-- The function with all attributes of that name left out. -/
def without (name : String) (f : Function) : Function :=
  { f with attributes := f.attributes.filter fun a => !a.isNamed name }

end Function

/-- An item of a block. -/
inductive Item where
  | function (f : Function)
  /-- Anything else. -/
  | other (code : List Token)
deriving Inhabited

/-- The tokens of an item. -/
def Item.tokens : Item → List Token
  | .function f => f.tokens
  | .other code => code

/-- The item with all attributes of that name left out, if it is a function. -/
def Item.without (name : String) : Item → Item
  | .function f => .function (f.without name)
  | .other code => .other code

/-- A block of associated items. -/
structure Block where
  attributes : List Attribute
  isDefault : Bool
  isUnsafe : Bool
  generics : Generics
  /-- The trait that the block implements, with a sign if it is denied. -/
  trait : Option (List Token)
  selfType : Ty
  conditions : Option (List Token)
  items : List Item
deriving Inhabited

namespace Block

/-- The functions in source order. -/
def functions (b : Block) : List Function :=
  b.items.filterMap fun
    | .function f => some f
    | .other _ => none

/-- The tokens of a block. -/
def tokens (b : Block) : List Token :=
  attributeTokens (b.attributes.filter fun a => !a.inner) ++
    (if b.isDefault then [.word "default"] else []) ++
    (if b.isUnsafe then [.word "unsafe"] else []) ++
    .word "impl" :: b.generics.tokens ++
    (match b.trait with
    | none => []
    | some path => path ++ [.word "for"]) ++
    b.selfType.tokens ++ conditionTokens b.conditions ++
    [braces (attributeTokens (b.attributes.filter (·.inner)) ++ b.items.flatMap Item.tokens)]

/-- The block with all attributes of that name left out of its functions. -/
def without (name : String) (b : Block) : Block :=
  { b with items := b.items.map (Item.without name) }

end Block

end Interpose.Source
