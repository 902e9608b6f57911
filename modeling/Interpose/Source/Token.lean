/-!
# Tokens of the host language

Model of `proc_macro2` (`TokenStream` and its text) and of `contains_ident` of
`veneer_macros::classify`.

Source text as a tree of tokens: words, lifetimes, literals, punctuation marks, and groups in
brackets. A mark remembers whether it is joined to the mark behind it, so that one operator of
two characters differs from two operators of one.

* `spell` : the text of a list of tokens, a blank between any two of them except behind a
  joined mark.
* `mention` : does a name occur as a word, at any depth?
* `operator`, `phrase` : tokens from their text, for code that is emitted.
-/

namespace Interpose.Source

/-- The brackets around a group. -/
inductive Delimiter where
  | paren
  | bracket
  | brace
  /-- None that can be seen: around tokens that a code generator keeps together. -/
  | invisible
deriving DecidableEq, Repr, Inhabited

/-- A token, or a group of tokens in brackets. -/
inductive Token where
  /-- An identifier, a keyword or the lone underscore; a raw identifier keeps its sign. -/
  | word (text : String)
  /-- A lifetime, without its apostrophe. -/
  | lifetime (name : String)
  /-- A literal in its source text. -/
  | literal (text : String)
  /-- A punctuation character, joined or not to the one behind it. -/
  | mark (c : Char) (joined : Bool)
  | group (d : Delimiter) (body : List Token)
deriving Repr, Inhabited, BEq

/-- The text in its brackets; braces stand off from what they hold. -/
def Delimiter.enclose (d : Delimiter) (inner : String) : String :=
  match d with
  | .paren => "(" ++ inner ++ ")"
  | .bracket => "[" ++ inner ++ "]"
  | .brace => if inner.isEmpty then "\x7b \x7d" else "\x7b " ++ inner ++ " \x7d"
  | .invisible => inner

/-- Is it a mark that is joined to the next one? -/
def Token.isJoined : Token → Bool
  | .mark _ joined => joined
  | _ => false

mutual

/-- The text of one token. -/
def Token.spelling : Token → String
  | .word s => s
  | .lifetime s => "\x27" ++ s
  | .literal s => s
  | .mark c _ => c.toString
  | .group d body => d.enclose (spell body)

/-- The text of the tokens: one blank between neighbours, none behind a joined mark. -/
def spell : List Token → String
  | [] => ""
  | t :: rest => t.spelling ++ (if rest.isEmpty || t.isJoined then "" else " ") ++ spell rest

end

mutual

/-- Is the token the word, or does it hold it? The name of a lifetime counts as a word. -/
def Token.mentions (name : String) : Token → Bool
  | .word s => s == name
  | .lifetime s => s == name
  | .literal _ => false
  | .mark _ _ => false
  | .group _ body => mention name body

/-- Does the word occur among the tokens, at any depth? -/
def mention (name : String) : List Token → Bool
  | [] => false
  | t :: rest => t.mentions name || mention name rest

end

theorem mention_append (name : String) (xs ys : List Token) :
    mention name (xs ++ ys) = (mention name xs || mention name ys) := by
  induction xs with
  | nil => simp [mention]
  | cons x xs ih => simp [mention, ih, Bool.or_assoc]

/-- One operator: each of its characters is joined to the next. -/
def joinMarks : List Char → List Token
  | [] => []
  | [c] => [.mark c false]
  | c :: d :: rest => .mark c true :: joinMarks (d :: rest)

/-- The operator of that text. -/
def operator (s : String) : List Token := joinMarks s.toList

/-- Tokens in parentheses. -/
def parens (body : List Token) : Token := .group .paren body

/-- Tokens in brackets. -/
def brackets (body : List Token) : Token := .group .bracket body

/-- Tokens in braces. -/
def braces (body : List Token) : Token := .group .brace body

/-- Words are made of letters, digits and underscores. -/
def isWordChar (c : Char) : Bool := c.isAlphanum || c == '_'

/-- Fixed code without groups: pieces that are set apart by blanks, each a word or an operator. -/
def phrase (s : String) : List Token :=
  (s.splitOn " ").flatMap fun piece =>
    if piece.toList.all isWordChar then (if piece.isEmpty then [] else [.word piece])
    else operator piece

/-- The lists in order with one comma between any two of them. -/
def commaBetween : List (List Token) → List Token
  | [] => []
  | [x] => x
  | x :: y :: rest => x ++ .mark ',' false :: commaBetween (y :: rest)

end Interpose.Source
