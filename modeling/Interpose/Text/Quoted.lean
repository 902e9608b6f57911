import Interpose.Text.Hidden

/-!
# Quoted text

Model of the `Debug` form of a string, in which `veneer_sdk` and `veneer_engine` report texts, and of
`proc_macro2::Literal::string`, as which `veneer_macros::proxyable` emits them.

A text in double quotes, with every character that would not show as itself written as an
escape: the short escapes for tab, line feed, carriage return, NUL, the double quote and the
backslash, and `\u` with the code point in braces for the hidden characters of
`Interpose.Text.Hidden`. A single quote stands for itself.

* `quoteDebug` : the form in which values are reported.
* `quoteLiteral` : the form of a string literal in emitted code. The two differ only at a NUL
  before an octal digit.
-/

namespace Interpose.Text

/-- Lower-case hexadecimal digits without leading zeros. -/
def hexDigits (n : Nat) : List Char := Nat.toDigits 16 n

/-- The escape of one character inside double quotes, the short escapes first. -/
def escapeChar (c : Char) : List Char :=
  match c with
  | '\x00' => ['\\', '0']
  | '\t' => ['\\', 't']
  | '\r' => ['\\', 'r']
  | '\n' => ['\\', 'n']
  | '"' => ['\\', '"']
  | '\\' => ['\\', '\\']
  | _ =>
    if isHidden c then ['\\', 'u', '\x7b'] ++ hexDigits c.toNat ++ ['\x7d']
    else [c]

/-- A text as values are reported: quoted and escaped character by character. -/
def quoteDebug (s : String) : String :=
  String.ofList ('"' :: s.toList.flatMap escapeChar ++ ['"'])

/-- The characters of a string literal. A NUL before an octal digit takes its long escape, so
that the digit is not read as part of it. -/
def literalChars : List Char → List Char
  | [] => []
  | '\x00' :: d :: rest =>
    if '0' ≤ d ∧ d ≤ '7' then ['\\', 'x', '0', '0'] ++ literalChars (d :: rest)
    else ['\\', '0'] ++ literalChars (d :: rest)
  | c :: rest => escapeChar c ++ literalChars rest

/-- A text as a string literal of emitted code. -/
def quoteLiteral (s : String) : String :=
  String.ofList ('"' :: literalChars s.toList ++ ['"'])

end Interpose.Text
