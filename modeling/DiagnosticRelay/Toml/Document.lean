import DiagnosticRelay.Toml.Value

/-!
# TOML documents

A document is a sequence of lines: headers, keys with their values, comments, and lines that are
blank. It is read into statements, and the statements are carried out on the root table.
-/

namespace DiagnosticRelay.Toml

/-- What a line says. -/
inductive Statement where
  /-- The header of a table, `[key]`. -/
  | table (key : Key)
  /-- The header of an element of an array of tables, `[[key]]`. -/
  | element (key : Key)
  /-- A key and its value. -/
  | assign (key : Key) (value : Toml)

namespace Statement

/-- What follows the end of a line: blanks, a comment, and a line break unless the text ends. -/
def endLine? (cs : List Char) : Option (List Char) :=
  let cs := match skipBlanks cs with
    | '#' :: rest => rest.dropWhile isCommentChar
    | cs => cs
  match cs with
  | [] => some []
  | '\n' :: rest => some rest
  | '\r' :: '\n' :: rest => some rest
  | _ => none

/-- A header or a key with its value, and what follows it on its line. -/
def read? : List Char → Option (Statement × List Char)
  | '[' :: '[' :: rest =>
    match key? rest with
    | some (key, ']' :: ']' :: rest) => some (element key, rest)
    | _ => none
  | '[' :: rest =>
    match key? rest with
    | some (key, ']' :: rest) => some (table key, rest)
    | _ => none
  | cs => (pair? (value? (depthLimit - 1)) cs).map fun ((key, value), rest) =>
    (assign key value, rest)

/-- The statements of a text of at most `limit` lines. -/
def ofLines? : Nat → List Char → Option (List Statement)
  | 0, _ => none
  | limit + 1, cs =>
    match skipBlanks cs with
    | [] => some []
    | cs =>
      match endLine? cs with
      | some rest => ofLines? limit rest
      | none =>
        match read? cs with
        | none => none
        | some (statement, rest) =>
          match endLine? rest with
          | none => none
          | some rest => (ofLines? limit rest).map (statement :: ·)

end Statement

/-- A document that is read up to some line: the root table and the path of the table that the last
header opened. -/
structure Document where
  root : Entries
  current : List String

namespace Document

/-- The document of which nothing is read. -/
def empty : Document :=
  ⟨[], []⟩

/-- Carry out a statement. Keys belong to the table that the last header opened. -/
def perform (document : Document) : Statement → Option Document
  | .table key =>
    (document.root.openTable key).map fun root => ⟨root, key.path ++ [key.name]⟩
  | .element key =>
    (document.root.openElement key).map fun root => ⟨root, key.path ++ [key.name]⟩
  | .assign key value =>
    (Entries.change (fun _ => true) .implied (fun _ entries => entries.assign key value)
      document.current .opened document.root).map fun root => { document with root := root }

end Document

/-- A text without a mark of its byte order at the beginning. -/
def trimMark : List Char → List Char
  | '\uFEFF' :: rest => rest
  | cs => cs

/-- The root table of a text. -/
def parse? (text : String) : Option (List (String × Toml)) :=
  let cs := trimMark text.toList
  (Statement.ofLines? (cs.length + 1) cs).bind fun statements =>
    (statements.foldlM Document.perform .empty).map fun document => Entries.values document.root

end DiagnosticRelay.Toml
