import Interpose.Source.Token

/-!
# Attributes

Model of `syn::Attribute`.

An attribute names a tool and may hand it a list in brackets or one value. An inner attribute
stands inside what it applies to.
-/

namespace Interpose.Source

/-- What an attribute hands to its tool. -/
inductive AttributeInput where
  | nothing
  | list (d : Delimiter) (body : List Token)
  | value (code : List Token)
deriving Repr, Inhabited

/-- An attribute. -/
structure Attribute where
  inner : Bool
  /-- Does its path start with `::`? -/
  rooted : Bool
  path : List String
  input : AttributeInput
deriving Repr, Inhabited

namespace Attribute

/-- Is its path this bare name? -/
def isNamed (a : Attribute) (name : String) : Bool := !a.rooted && a.path == [name]

/-- Words with `::` between any two of them. -/
def pathTokens : List String → List Token
  | [] => []
  | s :: rest => .word s :: (if rest.isEmpty then [] else operator "::") ++ pathTokens rest

/-- The tokens of what the tool is handed. -/
def inputTokens : AttributeInput → List Token
  | .nothing => []
  | .list d body => [.group d body]
  | .value code => .mark '=' false :: code

/-- The tokens of an attribute. -/
def tokens (a : Attribute) : List Token :=
  .mark '#' false :: (if a.inner then [.mark '!' false] else []) ++
    [brackets ((if a.rooted then operator "::" else []) ++ pathTokens a.path ++ inputTokens a.input)]

end Attribute

end Interpose.Source
