import Interpose.Source.Grammar
import Interpose.Source.Lexer

/-!
# Reading code

Model of how `syn` parses `Expr`, `Stmt` and `Pat` and turns them into tokens again.

The tokens of statements and expressions, put together anew. Code is not taken apart into a tree:
one pass goes over its tokens and knows at each of them whether an operand is expected. That
decides what a sign is: `&&` before an operand is two references, behind one it is a conjunction;
`||` before an operand opens and closes the parameters of a closure; `<` before an operand, or
behind `::`, opens a type or its arguments. Types inside code are read as types. The arguments of
an invocation that generates code keep their own tokens.

* `Grammar.ofDepth` : the grammar up to a depth of nesting.
* `readAll?` : reads a text as a whole.
-/

namespace Interpose.Source

/-- Where the pass over code is. -/
structure Place where
  /-- Is an operand expected? -/
  operand : Bool
  /-- Does a statement or the arm of a match start here? -/
  start : Bool
  /-- How many bodies in braces the keywords so far still wait for. -/
  owed : Nat
  /-- Did the first of those keywords start a statement? -/
  owedAtStart : Bool
  /-- Does a colon introduce a type? -/
  typed : Bool
  /-- Are these the parameters of a closure? -/
  params : Bool
deriving DecidableEq, Repr

namespace Place

/-- The start of a statement, or of an expression in brackets. -/
def initial (start : Bool) : Place := ⟨true, start, 0, false, false, false⟩

/-- Behind an operand. -/
def behind (p : Place) : Place := { p with operand := false, start := false }

/-- Before an operand. -/
def before (p : Place) : Place := { p with operand := true, start := false }

/-- Behind a keyword that waits for a body in braces. -/
def waiting (p : Place) : Place :=
  { p.before with owed := p.owed + 1, owedAtStart := if p.owed = 0 then p.start else p.owedAtStart }

end Place

namespace Grammar

open Reader

variable (g : Grammar)

/-- The operators of more than one character, those first that another one starts. -/
def longOperators : List String :=
  ["<<=", ">>=", "...", "..=", "&&", "||", "<<", ">>", "==", "!=", "<=", ">=", "=>", "->", "::",
    "..", "+=", "-=", "*=", "/=", "%=", "^=", "&=", "|="]

/-- Keywords that wait for a body in braces. -/
def bodyKeywords : List String := ["if", "match", "while", "for"]

/-- Keywords with a block right behind them, which may be a whole statement. -/
def blockKeywords : List String := ["loop", "unsafe", "else", "try"]

/-- Keywords that an operand follows. -/
def operandKeywords : List String :=
  ["return", "break", "continue", "in", "move", "mut", "ref", "box", "yield", "async", "dyn"]

/-- Keywords of declarations whose name a type may follow. -/
def bindingKeywords : List String := ["let", "const", "static"]

/-- A statement that is a block ends with it, unless a call or `?` goes on. -/
def behindBlock (p : Place) (atStart : Bool) : Reader Place := do
  let goesOn ← test fun ts => beginsWith "?" ts || (beginsWith "." ts && !beginsWith ".." ts)
  if atStart && !goesOn then return .initial true else return p.behind

/-- A group in brackets and what follows from it. Braces are the body that a keyword waits for if
they stand behind an operand; before an operand they are a block. -/
def codeGroup (p : Place) (d : Delimiter) (body : List Token) : Reader (List Token × Place) := do
  match g.code (d = .brace) body with
  | none => failure
  | some code =>
    let place ←
      if d ≠ .brace then pure p.behind
      else if p.owed = 0 then behindBlock p (p.start && p.operand)
      else if p.operand then pure p.behind
      else behindBlock { p with owed := p.owed - 1 } (p.owed = 1 && p.owedAtStart)
    return ([.group d code], place)

/-- A word and what follows from it. A statement may still turn out to be an invocation behind a
path, so a name does not end its start. -/
def codeWord (p : Place) (w : String) : Reader (List Token × Place) := do
  let shown := [Token.word w]
  if w = "as" && !p.operand then return (shown ++ (← g.type false).tokens, p.behind)
  else if w = "if" && !p.operand then return (shown, p.before)
  else if bodyKeywords.contains w then return (shown, p.waiting)
  else if blockKeywords.contains w then return (shown, { p with operand := true })
  else if w = "const" && (← test (beginsWithGroup .brace)) then return (shown, p)
  else if bindingKeywords.contains w then return (shown, { p.before with typed := true })
  else if operandKeywords.contains w then return (shown, p.before)
  else return (shown, { p with operand := false })

/-- The numbers behind a point: `0.1` is one member of another. Names are left to the next step. -/
def codeMember : Reader (List Token) := do
  match ← literal? with
  | some text =>
    let parts := (text.splitOn ".").map fun part => [Token.literal part]
    return (parts.intersperse [.mark '.' false]).flatten
  | none => return []

/-- Is an invocation that generates code next, perhaps with a name? -/
def beginsWithInvocation : List Token → Bool
  | .mark '!' false :: .group _ _ :: _ => true
  | .mark '!' false :: .word _ :: .group _ _ :: _ => true
  | _ => false

/-- An invocation from its sign on, with its tokens as they are. -/
def invocation : Reader (List Token) := do
  mark "!"
  match ← next with
  | .word w => return [.mark '!' false, .word w, ← next]
  | t => return [.mark '!' false, t]

/-- An invocation in code. One in braces that starts a statement is a whole statement. -/
def codeInvocation (p : Place) : Reader (List Token × Place) := do
  let shown ← invocation
  return (shown, ← behindBlock p (p.start && beginsWithGroup .brace (shown.drop (shown.length - 1))))

/-- A bar of a closure: the opening one, or the closing one with the result. -/
def codeBar (p : Place) : Reader (List Token × Place) := do
  mark "|"
  if p.params then
    return (.mark '|' false :: (← result? g true), { p.before with params := false })
  else return ([.mark '|' false], { p.before with params := true })

/-- A sign that means the same before and behind an operand. -/
def codeOperator (p : Place) : Reader (List Token × Place) := do
  if ← mark? "::" then
    if ← mark? "<" then
      let (args, trailing) ← angleArguments g
      return (operator "::" ++ .mark '<' false :: lifetimesFirst (argTokens args) trailing ++
        [.mark '>' false], p.behind)
    else return (operator "::", { p with operand := false })
  else if ← mark? ";" then return ([.mark ';' false], .initial true)
  else if ← mark? "," then return ([.mark ',' false], { p.before with owed := 0 })
  else if ← mark? ":" then
    if p.typed || p.params then return (.mark ':' false :: (← g.type true).tokens, p.behind)
    else return ([.mark ':' false], p.before)
  else if ← mark? "=>" then return (operator "=>", .initial true)
  else if ← mark? "->" then return (operator "->" ++ (← g.type true).tokens, p.behind)
  else
    match (← get).head? with
    | some (.mark c _) =>
      let ts ← get
      let s := (longOperators.find? fun s => beginsWith s ts).getD c.toString
      mark s
      return (operator s, { p.before with typed := p.typed && s != "=" })
    | _ => failure

/-- A sign before an operand. -/
def codeSignBefore (p : Place) (c : Char) : Reader (List Token × Place) := do
  if c = '#' then return ((← anAttribute g).tokens, p)
  else if c = '|' then codeBar g p
  else if c = '<' then
    let (self, rooted, trait) ← memberHead g
    let shown := if trait.isEmpty then [] else .word "as" :: (Ty.path rooted trait).tokens
    return (.mark '<' false :: self.tokens ++ shown ++ [.mark '>' false], p.behind)
  else if c = '&' || c = '*' || c = '!' || c = '-' then
    let _ ← next
    return ([.mark c false], p.before)
  else codeOperator g p

/-- A sign behind an operand. -/
def codeSignBehind (p : Place) (c : Char) : Reader (List Token × Place) := do
  if c = '|' && p.params then codeBar g p
  else if ← test beginsWithInvocation then codeInvocation p
  else if ← test (fun ts => beginsWith "." ts && !beginsWith ".." ts) then
    mark "."
    return (.mark '.' false :: (← codeMember), p.behind)
  else if ← mark? "?" then return ([.mark '?' false], p.behind)
  else codeOperator g p

/-- A lifetime: the label of a block, or the target of a jump. -/
def codeLifetime (p : Place) (name : String) : Reader (List Token × Place) := do
  if ← test beginsWithColon then
    mark ":"
    return ([.lifetime name, .mark ':' false], p)
  else return ([.lifetime name], p.before)

/-- One step: what the next tokens show, and the place behind them. -/
def codeStep (p : Place) : Reader (List Token × Place) := do
  match (← get).head? with
  | some (.mark c _) => if p.operand then codeSignBefore g p c else codeSignBehind g p c
  | _ =>
    match ← next with
    | .group d body => codeGroup g p d body
    | .word w => codeWord g p w
    | .lifetime name => codeLifetime p name
    | t => return ([t], p.behind)

/-- Code up to where `stop` holds, in at most `fuel` steps. -/
def codeUntil (stop : List Token → Bool) (fuel : Nat) (p : Place) : Reader (List Token) :=
  match fuel with
  | 0 => failure
  | fuel + 1 => do
    if ← test stop then return []
    let (shown, p) ← codeStep g p
    return shown ++ (← codeUntil stop fuel p)

/-- Code up to where `stop` holds. Every step takes a token. -/
def codeBefore (stop : List Token → Bool) (start : Bool) : Reader (List Token) := do
  codeUntil g stop ((← get).length + 1) (.initial start)

/-- The grammar up to a depth of nesting. -/
def ofDepth : Nat → Grammar
  | 0 => ⟨fun _ => failure, failure, fun _ => failure, fun _ _ => none⟩
  | depth + 1 =>
    let g := ofDepth depth
    { type := aType g
      path := aPath g
      bounds := someBounds g
      code := fun start body => (codeBefore g List.isEmpty start body).map (·.1) }

end Grammar

mutual

/-- The number of tokens in a token. -/
def Token.size : Token → Nat
  | .group _ body => size body + 1
  | _ => 1

/-- The number of tokens at every depth. -/
def size : List Token → Nat
  | [] => 0
  | t :: rest => t.size + size rest

end

/-- Reads the tokens as a whole. A way down of three levels takes at least one token, so that three
levels for each token are enough. -/
def readAll? {α : Type} (r : Grammar → Reader α) (ts : List Token) : Option α :=
  match r (.ofDepth (3 * size ts + 3)) ts with
  | some (a, []) => some a
  | _ => none

/-- The type of a text. -/
def Ty.read? (text : String) : Option Ty := do
  readAll? (·.type true) (← readTokens? text)

end Interpose.Source
