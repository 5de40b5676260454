import DiagnosticRelay.Toml.Moment
import DiagnosticRelay.Toml.Numeral
import DiagnosticRelay.Toml.Quoted
import DiagnosticRelay.Toml.Table

/-!
# Keys and values of TOML

Readers of keys and values. Each takes a text and gives what it has read and what follows. A key
has a limited number of parts, and arrays and inline tables nest to a limited depth.
-/

namespace DiagnosticRelay.Toml

/-- One more than the parts that a key may have, and one more than the depth to which arrays and
inline tables may nest. -/
def depthLimit : Nat := 80

/-- Whether a character may stand in a name without quotes. -/
def isBareChar (c : Char) : Bool :=
  c.isAlphanum || c == '-' || c == '_'

/-- A part of a key: a name without quotes, or a string on one line. -/
def keyPart? : List Char → Content
  | c :: rest =>
    if isBareChar c then some (c :: rest.takeWhile isBareChar, rest.dropWhile isBareChar)
    else lineString? (c :: rest)
  | [] => none

/-- The parts of a key, at most `limit`, with points between them. Blanks may stand around each
part. -/
def keyParts? : Nat → List Char → Option (List String × List Char)
  | 0, _ => none
  | limit + 1, cs =>
    match keyPart? (skipBlanks cs) with
    | none => none
    | some (part, rest) =>
      match skipBlanks rest with
      | '.' :: rest =>
        (keyParts? limit rest).map fun (parts, rest) => (.ofList part :: parts, rest)
      | rest => some ([.ofList part], rest)

/-- A key. The last part is the name that it gives. -/
def key? (cs : List Char) : Option (Key × List Char) :=
  (keyParts? (depthLimit - 1) cs).map fun (parts, rest) =>
    (⟨parts.dropLast, parts.getLastD ""⟩, rest)

/-- What follows blanks, line breaks and comments inside an array. The flag says whether a comment
has begun. A character that may not stand in a comment ends it and is left for the next reader,
which refuses it. -/
def skipLines : Bool → List Char → List Char
  | _, '\n' :: rest => skipLines false rest
  | _, '\r' :: '\n' :: rest => skipLines false rest
  | false, ' ' :: rest => skipLines false rest
  | false, '\t' :: rest => skipLines false rest
  | false, '#' :: rest => skipLines true rest
  | true, c :: rest => if isCommentChar c then skipLines true rest else c :: rest
  | _, cs => cs

/-- A reader of values. -/
abbrev ValueReader := List Char → Option (Toml × List Char)

/-- The items of an array after its opening bracket or a comma, at most `limit`, and what follows
the closing bracket. -/
def items? (item? : ValueReader) : Nat → List Char → Option (List Toml × List Char)
  | 0, _ => none
  | limit + 1, cs =>
    match skipLines false cs with
    | ']' :: rest => some ([], rest)
    | cs =>
      match item? cs with
      | none => none
      | some (item, rest) =>
        match skipLines false rest with
        | ',' :: rest => (items? item? limit rest).map fun (items, rest) => (item :: items, rest)
        | ']' :: rest => some ([item], rest)
        | _ => none

/-- A key, an equals sign and a value. -/
def pair? (value? : ValueReader) (cs : List Char) : Option ((Key × Toml) × List Char) :=
  match key? cs with
  | some (key, '=' :: rest) =>
    (value? (skipBlanks rest)).map fun (value, rest) => ((key, value), rest)
  | _ => none

/-- The pairs of an inline table after its opening brace or a comma, at most `limit`, and what
follows the closing brace. -/
def pairs? (value? : ValueReader) : Nat → List Char → Option (List (Key × Toml) × List Char)
  | 0, _ => none
  | limit + 1, cs =>
    match pair? value? cs with
    | none => none
    | some (pair, rest) =>
      match skipBlanks rest with
      | ',' :: rest => (pairs? value? limit rest).map fun (pairs, rest) => (pair :: pairs, rest)
      | '\x7d' :: rest => some ([pair], rest)
      | _ => none

/-- An inline table after its opening brace. It is on one line, has no comma at its end, and may be
empty. -/
def inlineTable? (value? : ValueReader) (cs : List Char) : Option (Toml × List Char) :=
  match skipBlanks cs with
  | '\x7d' :: rest => some (.table [], rest)
  | cs =>
    match pairs? value? (cs.length + 1) cs with
    | none => none
    | some (pairs, rest) =>
      (Entries.ofPairs? pairs).map fun entries => (.table (Entries.values entries), rest)

/-- A value that holds no other values. -/
def scalar? : ValueReader
  | 't' :: 'r' :: 'u' :: 'e' :: rest => some (.boolean true, rest)
  | 'f' :: 'a' :: 'l' :: 's' :: 'e' :: rest => some (.boolean false, rest)
  | cs =>
    match string? cs with
    | some (text, rest) => some (.string (.ofList text), rest)
    | none => ((moment? cs).or (float? cs)).or (integer? cs)

/-- A value in which arrays and inline tables nest at most `depth` deep. -/
def value? : Nat → ValueReader
  | 0 => scalar?
  | depth + 1 => fun cs =>
    match cs with
    | '[' :: rest =>
      (items? (value? depth) (rest.length + 1) rest).map fun (items, rest) => (.array items, rest)
    | '\x7b' :: rest => inlineTable? (value? depth) rest
    | cs => scalar? cs

end DiagnosticRelay.Toml
