import DiagnosticRelay.Diagnostic
import DiagnosticRelay.Placement

/-!
# Renderings

How a message is put into words: a short text that begins with the place, and a block for the long
explanation. The plain rendering writes `path:line:column: Label: message`, below it the line of
text with a caret under the column if it shows sources, and the explanation under a heading.
-/

namespace DiagnosticRelay

/-- The two texts that are made of a message. -/
structure Rendering where
  /-- The short text of a message at a location, headed by the label of its severity. -/
  short : Message → Location → String → String
  /-- The block that explains a message. -/
  explanation : Message → String

namespace Placement

/-- The place in front of a message. A line comes with a column, which counts from one here; a
line whose column is not known is given the first one. -/
def heading (placement : Placement) : String :=
  match placement.path?, placement.line? with
  | some path, some line => s!"{path}:{line}:{placement.column?.getD 0 + 1}: "
  | some path, none => s!"{path}: "
  | none, _ => ""

/-- The line of text and, below it, a caret under the column, each after a line feed. -/
def excerpt (placement : Placement) : String :=
  match placement.lineText?, placement.alignment? with
  | some line, some blanks => s!"\n{line}\n{blanks}^"
  | _, _ => ""

end Placement

namespace Rendering

/-- The plain rendering, with or without the line of text. -/
def plain (showSource : Bool) : Rendering where
  short message location label :=
    let placement := Placement.ofLocation location
    let head := s!"{placement.heading}{label}: {message.text}"
    if showSource then head ++ placement.excerpt else head
  explanation message := s!"\n\nExplanation\n===========\n{message.explanation}"

end Rendering

end DiagnosticRelay
