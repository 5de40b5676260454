import DiagnosticRelay.Source.LineIndex

/-!
# Sources

`Source` is what diagnostics need to know about the text that they point into. Any functions may
answer: nothing here supposes that the answers agree with each other or with some text.
`SourceText` is the source made from an actual text, which answers from its line index.
-/

namespace DiagnosticRelay

/-- What a source answers. Lines count from zero, offsets and starts count bytes. -/
structure Source where
  /-- Whether the source could be resolved, that is, whether its path leads to it. -/
  resolved : Bool
  /-- The file on disk that holds the source, if one does. -/
  file? : Option String
  /-- How the source is called. -/
  path : String
  /-- The line that holds an offset. -/
  lineAt? : Nat → Option Nat
  /-- Where the line of an offset begins. -/
  lineStart : Nat → Nat
  /-- The text of the line of an offset, with its terminator. -/
  lineText : Nat → String

/-- Where a text comes from. -/
inductive Origin where
  /-- A file on disk. -/
  | disk
  /-- A text that exists in memory only, such as the input of an interactive session. -/
  | memory
  /-- A text whose origin can no longer be found. -/
  | unresolved
deriving DecidableEq, Repr

/-- A text with its name and origin. -/
structure SourceText where
  /-- How the text is called; for a file on disk, its path. -/
  path : String
  /-- Where the text comes from. -/
  origin : Origin
  /-- The text itself. -/
  content : String
deriving DecidableEq, Repr

namespace SourceText

/-- The text that stands for no text at all: empty, without a name, and not to be found. -/
def absent : SourceText :=
  ⟨"", .unresolved, ""⟩

/-- The lines of the text. -/
def index (text : SourceText) : LineIndex :=
  .ofText text.content.toList

/-- The file on disk, for a text that comes from one. -/
def file? (text : SourceText) : Option String :=
  match text.origin with
  | .disk => some text.path
  | .memory | .unresolved => none

/-- The source that answers from the text. -/
def source (text : SourceText) : Source :=
  let index := text.index
  { resolved := text.origin != .unresolved
    file? := text.file?
    path := text.path
    lineAt? := index.lineAt?
    lineStart := index.lineStart
    lineText := fun offset => .ofList (index.lineText offset) }

@[simp] theorem source_lineAt? (text : SourceText) (offset : Nat) :
    text.source.lineAt? offset = text.index.lineAt? offset := rfl

@[simp] theorem source_lineStart (text : SourceText) (offset : Nat) :
    text.source.lineStart offset = text.index.lineStart offset := rfl

@[simp] theorem toList_source_lineText (text : SourceText) (offset : Nat) :
    (text.source.lineText offset).toList = text.index.lineText offset :=
  String.toList_ofList

end SourceText

/-- The source of a diagnostic that points nowhere. -/
def Source.absent : Source :=
  SourceText.absent.source

end DiagnosticRelay
