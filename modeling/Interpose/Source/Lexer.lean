import Interpose.Source.Token
import Interpose.Text.Quoted

/-!
# Reading tokens

Model of reading a `proc_macro2::TokenStream`.

From source text to tokens. A step takes one lexeme off the text: a blank, a comment, a token, or
one bracket; brackets are paired afterwards. Plain comments leave nothing behind, documentation
comments become attributes. Literals keep their source text, whatever it says.

* `readTokens?` : the tokens of a text, if its brackets pair up and every character belongs to a
  token.
-/

namespace Interpose.Source

/-- What one step takes off the text, and what is left of it. -/
abbrev Cut (α : Type) := Option (α × List Char)

/-! ## Character classes -/

/-- Blanks between tokens; the two direction marks count as blanks. -/
def isBlank (c : Char) : Bool :=
  c.isWhitespace || c == '\x0b' || c == '\x0c' ||
    c.toNat ∈ [0x85, 0xa0, 0x1680, 0x2028, 0x2029, 0x202f, 0x205f, 0x3000, 0x200e, 0x200f] ||
    (0x2000 ≤ c.toNat && c.toNat ≤ 0x200a)

/-- Characters that carry a word on. Every character beyond the first 128 that is no blank
counts as a letter. -/
def continuesWord (c : Char) : Bool := isWordChar c || (128 ≤ c.toNat && !isBlank c)

/-- Characters that open a word. -/
def opensWord (c : Char) : Bool := continuesWord c && !c.isDigit

/-- Characters that are punctuation. -/
def isMark (c : Char) : Bool := "~!@#$%^&*-=+|;:,<.>/?".toList.contains c

/-! ## Comments -/

/-- Up to the end of the line. -/
def takeLine : List Char → List Char × List Char
  | [] => ([], [])
  | '\n' :: rest => ([], '\n' :: rest)
  | '\r' :: '\n' :: rest => ([], '\n' :: rest)
  | c :: rest => (c :: (takeLine rest).1, (takeLine rest).2)

/-- Up to the end of a comment that is open, with `depth` comments open inside it. -/
def takeComment (depth : Nat) : List Char → Cut (List Char)
  | [] => none
  | '*' :: '/' :: rest =>
    match depth with
    | 0 => some ([], rest)
    | depth + 1 => (takeComment depth rest).map fun p => ('*' :: '/' :: p.1, p.2)
  | '/' :: '*' :: rest => (takeComment (depth + 1) rest).map fun p => ('/' :: '*' :: p.1, p.2)
  | c :: rest => (takeComment depth rest).map fun p => (c :: p.1, p.2)

/-- The attribute that a documentation comment stands for; an inner one has a `!`. -/
def docAttribute (inner : Bool) (content : List Char) : List Token :=
  (if inner then [.mark '#' false, .mark '!' false] else [.mark '#' false]) ++
    [brackets [.word "doc", .mark '=' false, .literal (Text.quoteLiteral (String.ofList content))]]

/-- A comment at the head of the text, as the attribute it stands for or as nothing. Four slashes
or three stars make a comment plain again. -/
def readComment? : List Char → Cut (List Token)
  | '/' :: '/' :: '/' :: '/' :: rest => some ([], (takeLine rest).2)
  | '/' :: '/' :: '/' :: rest =>
    let line := takeLine rest
    some (docAttribute false line.1, line.2)
  | '/' :: '/' :: '!' :: rest =>
    let line := takeLine rest
    some (docAttribute true line.1, line.2)
  | '/' :: '/' :: rest => some ([], (takeLine rest).2)
  | '/' :: '*' :: '*' :: '/' :: rest => some ([], rest)
  | '/' :: '*' :: '*' :: '*' :: rest => (takeComment 0 ('*' :: '*' :: rest)).map fun p => ([], p.2)
  | '/' :: '*' :: '*' :: rest => (takeComment 0 rest).map fun p => (docAttribute false p.1, p.2)
  | '/' :: '*' :: '!' :: rest => (takeComment 0 rest).map fun p => (docAttribute true p.1, p.2)
  | '/' :: '*' :: rest => (takeComment 0 rest).map fun p => ([], p.2)
  | _ => none

/-! ## Literals -/

/-- Up to and with the closing quote `q`; a backslash takes the next character along. -/
def takeQuoted (q : Char) : List Char → Cut (List Char)
  | [] => none
  | '\\' :: c :: rest => (takeQuoted q rest).map fun p => ('\\' :: c :: p.1, p.2)
  | c :: rest => if c = q then some ([c], rest) else (takeQuoted q rest).map fun p => (c :: p.1, p.2)

/-- Up to and with a double quote that `hashes` signs follow. -/
def takeRaw (hashes : Nat) : List Char → Cut (List Char)
  | [] => none
  | c :: rest =>
    let closing := List.replicate hashes '#'
    if c = '"' ∧ closing.isPrefixOf rest then some (c :: closing, rest.drop hashes)
    else (takeRaw hashes rest).map fun p => (c :: p.1, p.2)

/-- A raw string behind its letters: signs, a quote, and all up to the same quote and signs. -/
def readRaw? (cs : List Char) : Cut (List Char) :=
  let (signs, rest) := cs.span (· == '#')
  match rest with
  | '"' :: rest => (takeRaw signs.length rest).map fun p => (signs ++ '"' :: p.1, p.2)
  | _ => none

/-- A word at the head of the text, as the suffix of a literal; it may be missing. -/
def takeSuffix (cs : List Char) : List Char × List Char :=
  match cs with
  | c :: _ => if opensWord c then cs.span continuesWord else ([], cs)
  | [] => ([], [])

/-- Digits and underscores. -/
def takeDigits (cs : List Char) : List Char × List Char :=
  cs.span fun c => c.isDigit || c == '_'

/-- The fraction of a number; a point before a second point or a word is no fraction. -/
def takeFraction (cs : List Char) : List Char × List Char :=
  match cs with
  | '.' :: rest =>
    if rest.head?.any fun c => c == '.' || opensWord c then ([], cs)
    else
      let (digits, rest) := takeDigits rest
      ('.' :: digits, rest)
  | _ => ([], cs)

/-- The exponent of a number, if digits follow the letter and the sign. -/
def takeExponent (cs : List Char) : List Char × List Char :=
  match cs with
  | e :: rest =>
    if e = 'e' ∨ e = 'E' then
      let (sign, rest) := match rest with
        | s :: rest' => if s = '+' ∨ s = '-' then ([s], rest') else ([], rest)
        | [] => ([], [])
      let (digits, rest) := takeDigits rest
      if digits.any Char.isDigit then (e :: sign ++ digits, rest) else ([], cs)
    else ([], cs)
  | [] => ([], [])

/-- A number: one with a base sign is a single run of letters and digits. -/
def takeNumber (cs : List Char) : List Char × List Char :=
  match cs with
  | '0' :: b :: _ =>
    if b = 'x' ∨ b = 'o' ∨ b = 'b' then cs.span continuesWord else decimal
  | _ => decimal
where
  decimal : List Char × List Char :=
    let (whole, rest) := takeDigits cs
    let (fraction, rest) := takeFraction rest
    let (exponent, rest) := takeExponent rest
    let (suffix, rest) := takeSuffix rest
    (whole ++ fraction ++ exponent ++ suffix, rest)

/-- The letters before a string, and whether they announce a raw one. -/
def stringLetters : List Char → List Char × Bool
  | 'b' :: 'r' :: _ => (['b', 'r'], true)
  | 'c' :: 'r' :: _ => (['c', 'r'], true)
  | 'r' :: _ => (['r'], true)
  | 'b' :: _ => (['b'], false)
  | 'c' :: _ => (['c'], false)
  | _ => ([], false)

/-- A string in any of its forms, with the letters before it. -/
def readString? (cs : List Char) : Cut (List Char) :=
  let (letters, raw) := stringLetters cs
  let body : Cut (List Char) := match cs.drop letters.length, raw with
    | rest, true => readRaw? rest
    | '"' :: rest, false => (takeQuoted '"' rest).map fun p => ('"' :: p.1, p.2)
    | _, false => none
  body.map fun p => (letters ++ p.1, p.2)

/-- A character in single quotes, perhaps behind the letter of a byte. One character that no
quote follows is no character literal: it opens a lifetime. -/
def readCharacter? : List Char → Cut (List Char)
  | 'b' :: '\'' :: rest => (quoted rest).map fun p => ('b' :: '\'' :: p.1, p.2)
  | '\'' :: rest => (quoted rest).map fun p => ('\'' :: p.1, p.2)
  | _ => none
where
  quoted : List Char → Cut (List Char)
    | '\\' :: rest => takeQuoted '\'' ('\\' :: rest)
    | c :: '\'' :: rest => some ([c, '\''], rest)
    | _ => none

/-- A literal at the head of the text. -/
def readLiteral? (cs : List Char) : Cut Token :=
  match readString? cs <|> readCharacter? cs with
  | some (text, rest) =>
    let (suffix, rest) := takeSuffix rest
    some (.literal (String.ofList (text ++ suffix)), rest)
  | none =>
    if cs.head?.any Char.isDigit then
      let (text, rest) := takeNumber cs
      some (.literal (String.ofList text), rest)
    else none

/-! ## Words and marks -/

/-- A word; the sign of a raw one stays with it. -/
def readWord? (cs : List Char) : Cut (List Char) :=
  match cs with
  | 'r' :: '#' :: c :: rest =>
    if opensWord c then
      let (text, rest) := (c :: rest).span continuesWord
      some ('r' :: '#' :: text, rest)
    else some (['r'], '#' :: c :: rest)
  | c :: _ => if opensWord c then some (cs.span continuesWord) else none
  | [] => none

/-- Does the text go on with a mark? The slash of a comment is none; an apostrophe is one. -/
def goesOnWithMark : List Char → Bool
  | '/' :: '/' :: _ => false
  | '/' :: '*' :: _ => false
  | c :: _ => isMark c || c == '\''
  | [] => false

/-- A lifetime or a mark. -/
def readMark? : List Char → Cut Token
  | '\'' :: rest => (readWord? rest).map fun p => (.lifetime (String.ofList p.1), p.2)
  | c :: rest => if isMark c then some (.mark c (goesOnWithMark rest), rest) else none
  | [] => none

/-! ## The whole text -/

/-- What one step finds. -/
inductive Lexeme where
  | token (t : Token)
  | opening (d : Delimiter)
  | closing (d : Delimiter)

/-- One step over a text that is not empty. -/
def readLexeme? (cs : List Char) : Cut (List Lexeme) :=
  match cs with
  | [] => none
  | c :: rest =>
    if isBlank c then some ([], rest)
    else
      match bracket? c with
      | some b => some ([b], rest)
      | none =>
        match readComment? cs with
        | some (tokens, rest) => some (tokens.map .token, rest)
        | none =>
          match readLiteral? cs <|> readMark? cs with
          | some (t, rest) => some ([.token t], rest)
          | none => (readWord? cs).map fun p => ([.token (.word (String.ofList p.1))], p.2)
where
  bracket? : Char → Option Lexeme
    | '(' => some (.opening .paren)
    | ')' => some (.closing .paren)
    | '[' => some (.opening .bracket)
    | ']' => some (.closing .bracket)
    | '\x7b' => some (.opening .brace)
    | '\x7d' => some (.closing .brace)
    | _ => none

/-- The lexemes of the text, in at most `fuel` steps. -/
def lexemes? (fuel : Nat) (cs : List Char) : Option (List Lexeme) :=
  match cs, fuel with
  | [], _ => some []
  | _ :: _, 0 => none
  | _ :: _, fuel + 1 => do
    let (found, rest) ← readLexeme? cs
    return found ++ (← lexemes? fuel rest)

/-- Pairs the brackets: `done` holds the tokens of the group that is open, last first, and
`outer` the groups around it with what they hold so far. -/
def pairBrackets? (outer : List (Delimiter × List Token)) (done : List Token) :
    List Lexeme → Option (List Token)
  | [] => if outer.isEmpty then some done.reverse else none
  | .token t :: rest => pairBrackets? outer (t :: done) rest
  | .opening d :: rest => pairBrackets? ((d, done) :: outer) [] rest
  | .closing d :: rest =>
    match outer with
    | (d', before) :: outer =>
      if d = d' then pairBrackets? outer (.group d done.reverse :: before) rest else none
    | [] => none

/-- The tokens of a text. Every step takes at least one character, so that the length of the
text bounds their number. -/
def readTokens? (text : String) : Option (List Token) := do
  pairBrackets? [] [] (← lexemes? text.length text.toList)

end Interpose.Source
