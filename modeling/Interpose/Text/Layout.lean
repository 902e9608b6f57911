import Interpose.Text.Quoted

/-!
# Layout of reported values

Model of the `Debug` forms of `veneer_sdk` and `veneer_engine` (`debug_struct`, `debug_tuple`), in
their two renderings.

A value is reported as nested records, tuples, lists and sets. `Layout` is that nesting without
any decision about line breaks; it has two renderings.

* `Layout.inline` : everything on one line.
* `Layout.indented` : one line per field or item, each closed by a comma, four columns deeper
  than what holds it. Leaves are never broken.
-/

namespace Interpose.Text

/-- The nesting of a reported value. -/
inductive Layout where
  /-- A leaf: text that is printed as it stands. -/
  | leaf (text : String)
  /-- A record; `more` marks one that does not list all of its fields. -/
  | record (name : String) (fields : List (String × Layout)) (more : Bool)
  /-- A name with unnamed parts. -/
  | tuple (name : String) (parts : List Layout)
  /-- Items in square brackets. -/
  | list (items : List Layout)
  /-- Items in braces. -/
  | set (items : List Layout)

namespace Layout

/-- A quoted text as a leaf. -/
def quoted (s : String) : Layout := .leaf (quoteDebug s)

/-- A truth value as a leaf. -/
def ofBool (b : Bool) : Layout := .leaf (if b then "true" else "false")

/-- A number as a leaf. -/
def ofNat (n : Nat) : Layout := .leaf (toString n)

/-- A record that lists all of its fields. -/
def closed (name : String) (fields : List (String × Layout)) : Layout := .record name fields false

/-- An absent or present part. -/
def ofOption : Option Layout → Layout
  | none => .leaf "None"
  | some l => .tuple "Some" [l]

mutual

/-- The rendering on one line. -/
def inline : Layout → String
  | .leaf text => text
  | .record name fields more =>
    let shown := inlineFields fields ++ (if more then [".."] else [])
    if shown.isEmpty then name
    else name ++ " \x7b " ++ ", ".intercalate shown ++ " \x7d"
  | .tuple name parts =>
    if parts.isEmpty then name else name ++ "(" ++ ", ".intercalate (inlineItems parts) ++ ")"
  | .list items => "[" ++ ", ".intercalate (inlineItems items) ++ "]"
  | .set items => "\x7b" ++ ", ".intercalate (inlineItems items) ++ "\x7d"

/-- The fields of a record on one line, each with its name. -/
def inlineFields : List (String × Layout) → List String
  | [] => []
  | (name, l) :: rest => (name ++ ": " ++ l.inline) :: inlineFields rest

/-- Unnamed parts on one line. -/
def inlineItems : List Layout → List String
  | [] => []
  | l :: rest => l.inline :: inlineItems rest

end

/-- Puts `s` before the first of the lines. -/
def startWith (s : String) : List String → List String
  | [] => [s]
  | l :: rest => (s ++ l) :: rest

/-- Puts a comma after the last of the lines and moves all of them four columns in. -/
def asItem (lines : List String) : List String :=
  match lines.reverse with
  | [] => []
  | last :: before => (((last ++ ",") :: before).reverse).map ("    " ++ ·)

mutual

/-- The lines of the rendering with one line per part. -/
def lines : Layout → List String
  | .leaf text => [text]
  | .record name fields more =>
    if fields.isEmpty && !more then [name]
    else (name ++ " \x7b") :: fieldLines fields ++ (if more then ["    .."] else []) ++ ["\x7d"]
  | .tuple name parts =>
    if parts.isEmpty then [name] else (name ++ "(") :: itemLines parts ++ [")"]
  | .list items => if items.isEmpty then ["[]"] else "[" :: itemLines items ++ ["]"]
  | .set items => if items.isEmpty then ["\x7b\x7d"] else "\x7b" :: itemLines items ++ ["\x7d"]

/-- The lines of the fields of a record. -/
def fieldLines : List (String × Layout) → List String
  | [] => []
  | (name, l) :: rest => asItem (startWith (name ++ ": ") l.lines) ++ fieldLines rest

/-- The lines of unnamed parts. -/
def itemLines : List Layout → List String
  | [] => []
  | l :: rest => asItem l.lines ++ itemLines rest

end

/-- The rendering with one line per part. -/
def indented (l : Layout) : String := "\n".intercalate l.lines

end Layout

end Interpose.Text
