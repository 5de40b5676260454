import DiagnosticRelay.Text.Digits
import DiagnosticRelay.Toml.Basic

/-!
# Quoted text of TOML

The four kinds of strings: basic ones with escapes and literal ones without, each on one line
between single delimiters or over several lines between triple ones. Each reader takes the text
after the opening delimiter and gives the content and what follows the closing one.

A string over several lines loses a line break directly after its opening delimiter, and its line
breaks count as line feeds. One or two delimiters may stand inside it and directly before its end.
-/

namespace DiagnosticRelay.Toml

/-- How much of an escape has been read after its backslash. -/
inductive Escape where
  | start
  /-- Hexadecimal digits: how many are still to come, at least one, and their value so far. -/
  | digits (more : Nat) (value : Nat)
deriving DecidableEq, Repr

namespace Escape

/-- The character of an escape of one letter. -/
def letter? : Char → Option Char
  | 'b' => some '\x08'
  | 't' => some '\t'
  | 'n' => some '\n'
  | 'f' => some '\x0c'
  | 'r' => some '\r'
  | '"' => some '"'
  | '\\' => some '\\'
  | _ => none

/-- Take one character of an escape. The result is a longer escape or the character it stands for.
A code point must be a scalar value. -/
def step : Escape → Char → Option (Escape ⊕ Char)
  | start, 'u' => some (.inl (digits 4 0))
  | start, 'U' => some (.inl (digits 8 0))
  | start, c => (letter? c).map .inr
  | digits more value, c =>
    match Text.hexDigit? c with
    | none => none
    | some d =>
      if more ≤ 1 then (Text.scalar? (value * 16 + d)).map .inr
      else some (.inl (digits (more - 1) (value * 16 + d)))

end Escape

/-- What a reader gives: content and what follows. -/
abbrev Content := Option (List Char × List Char)

/-- Content with one more character in front. -/
def Content.push (c : Char) (content : Content) : Content :=
  content.map fun (text, rest) => (c :: text, rest)

/-- Whether a character may stand for itself in a basic string. -/
def isBasicChar (c : Char) : Bool :=
  isCommentChar c && c != '"' && c != '\\'

/-- Whether a character may stand in a literal string. -/
def isLiteralChar (c : Char) : Bool :=
  isCommentChar c && c != '\x27'

/-- The rest of a basic string on one line, with the escape that has begun. -/
def basicContent : Option Escape → List Char → Content
  | _, [] => none
  | some escape, c :: rest =>
    match escape.step c with
    | none => none
    | some (.inl longer) => basicContent (some longer) rest
    | some (.inr character) => .push character (basicContent none rest)
  | none, '"' :: rest => some ([], rest)
  | none, '\\' :: rest => basicContent (some .start) rest
  | none, c :: rest => if isBasicChar c then .push c (basicContent none rest) else none

/-- The rest of a literal string on one line. -/
def literalContent : List Char → Content
  | [] => none
  | '\x27' :: rest => some ([], rest)
  | c :: rest => if isLiteralChar c then .push c (literalContent rest) else none

/-- What follows three delimiters in a row: up to two more belong to the content in front of the
closing ones. -/
def closeTriple (delimiter : Char) : List Char → Content
  | a :: b :: c :: rest =>
    if a = delimiter then
      if b = delimiter then
        if c = delimiter then none else some ([delimiter, delimiter], c :: rest)
      else some ([delimiter], b :: c :: rest)
    else some ([], a :: b :: c :: rest)
  | [a, b] =>
    if a = delimiter then
      if b = delimiter then some ([delimiter, delimiter], []) else some ([delimiter], [b])
    else some ([], [a, b])
  | [a] => if a = delimiter then some ([delimiter], []) else some ([], [a])
  | [] => some ([], [])

/-- Where a reader of a basic string over several lines stands. -/
inductive LinesState where
  | text
  | escape (escape : Escape)
  /-- After a backslash and blanks, before the line break that they need. -/
  | lineEnd
  /-- After a backslash at the end of a line: blanks and line breaks are left out. -/
  | joining

/-- The rest of a basic string over several lines. A backslash at the end of a line removes the
line break and all blanks and line breaks after it. -/
def basicLines : LinesState → List Char → Content
  | .lineEnd, '\n' :: rest => basicLines .joining rest
  | .lineEnd, '\r' :: '\n' :: rest => basicLines .joining rest
  | .lineEnd, c :: rest => if isBlank c then basicLines .lineEnd rest else none
  | .escape .start, '\n' :: rest => basicLines .joining rest
  | .escape .start, '\r' :: '\n' :: rest => basicLines .joining rest
  | .escape .start, ' ' :: rest => basicLines .lineEnd rest
  | .escape .start, '\t' :: rest => basicLines .lineEnd rest
  | .escape escape, c :: rest =>
    match escape.step c with
    | none => none
    | some (.inl longer) => basicLines (.escape longer) rest
    | some (.inr character) => .push character (basicLines .text rest)
  | .joining, ' ' :: rest => basicLines .joining rest
  | .joining, '\t' :: rest => basicLines .joining rest
  | .joining, '\n' :: rest => basicLines .joining rest
  | .joining, '\r' :: '\n' :: rest => basicLines .joining rest
  | _, '"' :: '"' :: '"' :: rest => closeTriple '"' rest
  | _, '"' :: rest => .push '"' (basicLines .text rest)
  | _, '\\' :: rest => basicLines (.escape .start) rest
  | _, '\n' :: rest => .push '\n' (basicLines .text rest)
  | _, '\r' :: '\n' :: rest => .push '\n' (basicLines .text rest)
  | _, c :: rest => if isBasicChar c then .push c (basicLines .text rest) else none
  | _, [] => none

/-- The rest of a literal string over several lines. -/
def literalLines : List Char → Content
  | [] => none
  | '\x27' :: '\x27' :: '\x27' :: rest => closeTriple '\x27' rest
  | '\x27' :: rest => .push '\x27' (literalLines rest)
  | '\n' :: rest => .push '\n' (literalLines rest)
  | '\r' :: '\n' :: rest => .push '\n' (literalLines rest)
  | c :: rest => if isLiteralChar c then .push c (literalLines rest) else none

/-- A text without the line break at its beginning. -/
def trimBreak : List Char → List Char
  | '\n' :: rest => rest
  | '\r' :: '\n' :: rest => rest
  | cs => cs

/-- A string on one line, as keys use them. -/
def lineString? : List Char → Content
  | '"' :: rest => basicContent none rest
  | '\x27' :: rest => literalContent rest
  | _ => none

/-- A string of any kind. -/
def string? : List Char → Content
  | '"' :: '"' :: '"' :: rest => basicLines .text (trimBreak rest)
  | '\x27' :: '\x27' :: '\x27' :: rest => literalLines (trimBreak rest)
  | cs => lineString? cs

end DiagnosticRelay.Toml
