/-!
# Reserved words

Model of the words that `syn` does not read as an `Ident`.

The words that cannot name anything unless they are written raw. The lone underscore is one.
-/

namespace Interpose.Source

/-- The reserved words. -/
def reservedWords : List String :=
  ["_", "abstract", "as", "async", "await", "become", "box", "break", "const", "continue",
    "crate", "do", "dyn", "else", "enum", "extern", "false", "final", "fn", "for", "if", "impl",
    "in", "let", "loop", "macro", "match", "mod", "move", "mut", "override", "priv", "pub", "ref",
    "return", "Self", "self", "static", "struct", "super", "trait", "true", "try", "type",
    "typeof", "unsafe", "unsized", "use", "virtual", "where", "while", "yield"]

/-- Is the word reserved? -/
def isReserved (w : String) : Bool := reservedWords.contains w

end Interpose.Source
