import DiagnosticRelay.Text.Printable

/-!
# Quoted text

A text in double quotes, on one line and readable whatever it holds. Quotes, backslashes and the
common control characters are written with a backslash, other characters that cannot stand for
themselves by their code point.
-/

namespace DiagnosticRelay.Text

/-- The code point of a character in hexadecimal digits, as an escape. -/
def codeEscape (c : Char) : List Char :=
  ['\\', 'u', '\x7b'] ++ Nat.toDigits 16 c.toNat ++ ['\x7d']

/-- A character as it is written between quotes. -/
def quoteChar : Char → List Char
  | '\x00' => ['\\', '0']
  | '\t' => ['\\', 't']
  | '\r' => ['\\', 'r']
  | '\n' => ['\\', 'n']
  | '"' => ['\\', '"']
  | '\\' => ['\\', '\\']
  | c => if isPrintable c && !extendsGrapheme c then [c] else codeEscape c

/-- A text in quotes. -/
def quote (text : String) : String :=
  .ofList ('"' :: text.toList.flatMap quoteChar ++ ['"'])

end DiagnosticRelay.Text
