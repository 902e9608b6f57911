import Interpose.Source.Token

/-!
# Readers over tokens

Model of `syn::parse::ParseStream`.

A reader takes tokens off the front of a list and makes something of them, or fails. Operators
are matched character by character, so that `>>` can be taken as one operator or as two signs.

* `Reader.mark?`, `Reader.word?` : take an expected token if it is there.
* `Reader.repeated`, `Reader.listed` : take as many as there are; every round takes a token, so
  the number of tokens bounds the rounds.
* `Reader.within` : read the whole of a group.
-/

namespace Interpose.Source

/-- Takes tokens off the front of a list. -/
abbrev Reader (α : Type) := StateT (List Token) Option α

/-- What follows the operator, if the tokens begin with it. The last character of the operator
may be joined to the next mark. -/
def afterOperator? : List Char → List Token → Option (List Token)
  | [], ts => some ts
  | [c], .mark d _ :: ts => if c = d then some ts else none
  | c :: c' :: cs, .mark d true :: ts => if c = d then afterOperator? (c' :: cs) ts else none
  | _, _ => none

/-- Do the tokens begin with the operator? -/
def beginsWith (s : String) (ts : List Token) : Bool := (afterOperator? s.toList ts).isSome

/-- Do the tokens begin with the word? -/
def beginsWithWord (s : String) : List Token → Bool
  | .word w :: _ => w == s
  | _ => false

/-- Do the tokens begin with a group in these brackets? -/
def beginsWithGroup (d : Delimiter) : List Token → Bool
  | .group d' _ :: _ => d == d'
  | _ => false

/-- Do the tokens begin with a colon that is not half of `::`? -/
def beginsWithColon (ts : List Token) : Bool := beginsWith ":" ts && !beginsWith "::" ts

namespace Reader

variable {α : Type}

/-- Does this hold of the tokens that are left? -/
def test (p : List Token → Bool) : Reader Bool := fun ts => some (p ts, ts)

/-- The next token. -/
def next : Reader Token
  | t :: ts => some (t, ts)
  | [] => none

/-- The next token, which is a word. -/
def anyWord : Reader String
  | .word s :: ts => some (s, ts)
  | _ => none

/-- Takes the word if it is next. -/
def word? (s : String) : Reader Bool
  | .word w :: ts => some (if w == s then (true, ts) else (false, .word w :: ts))
  | ts => some (false, ts)

/-- Takes the operator if it is next. -/
def mark? (s : String) : Reader Bool := fun ts =>
  match afterOperator? s.toList ts with
  | some rest => some (true, rest)
  | none => some (false, ts)

/-- Takes the word, which must be next. -/
def word (s : String) : Reader Unit := do if ← word? s then pure () else failure

/-- Takes the operator, which must be next. -/
def mark (s : String) : Reader Unit := do if ← mark? s then pure () else failure

/-- Takes the next token if it is a lifetime. -/
def lifetime? : Reader (Option String)
  | .lifetime s :: ts => some (some s, ts)
  | ts => some (none, ts)

/-- Takes the next token if it is a literal. -/
def literal? : Reader (Option String)
  | .literal s :: ts => some (some s, ts)
  | ts => some (none, ts)

/-- Takes the next token, which is a group in these brackets, and gives what it holds. -/
def group (d : Delimiter) : Reader (List Token)
  | .group d' body :: ts => if d = d' then some (body, ts) else none
  | _ => none

/-- Reads all of `body` and leaves the tokens behind it as they are. -/
def within (body : List Token) (r : Reader α) : Reader α := fun ts =>
  match r body with
  | some (a, []) => some (a, ts)
  | _ => none

/-- At most `fuel` rounds, up to the first that finds nothing. -/
def rounds (fuel : Nat) (r : Reader (Option α)) : Reader (List α) :=
  match fuel with
  | 0 => pure []
  | fuel + 1 => do
    match ← r with
    | some a => return a :: (← rounds fuel r)
    | none => return []

/-- As many as there are. -/
def repeated (r : Reader (Option α)) : Reader (List α) := fun ts => rounds (ts.length + 1) r ts

/-- Items with a comma between them, up to where `stop` holds, and whether a comma ends them. -/
def listed (stop : List Token → Bool) (r : Reader α) : Reader (List α × Bool) := do
  let items ← repeated do
    if ← test stop then return none
    let a ← r
    return some (a, ← mark? ",")
  return (items.map (·.1), items.getLast?.any (·.2))

/-- All items of a group, with a comma between them. -/
def listedWithin (body : List Token) (r : Reader α) : Reader (List α × Bool) :=
  within body (listed List.isEmpty r)

end Reader

end Interpose.Source
