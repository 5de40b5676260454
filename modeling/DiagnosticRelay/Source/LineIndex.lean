import DiagnosticRelay.Bisect
import DiagnosticRelay.Text.Lines

/-!
# Line index

A text together with the offsets at which its lines begin. The line that holds an offset is found
by bisection over these offsets. An offset past the end of the text is in no line, but the last
line is still the nearest one that begins before it.
-/

namespace DiagnosticRelay

/-- A text and the offsets of its lines. There is always a first line. -/
structure LineIndex where
  /-- The characters of the text. -/
  text : List Char
  /-- The offset of the first byte of every line, in ascending order. -/
  starts : Array Nat
  /-- A text has at least one line. -/
  starts_pos : 0 < starts.size

namespace LineIndex

/-- The index of a text. -/
def ofText (text : List Char) : LineIndex where
  text := text
  starts := (Text.lineStarts text).toArray
  starts_pos := by simp [Text.lineStarts]

/-- How many lines there are. -/
def lineCount (index : LineIndex) : Nat :=
  index.starts.size

/-- How many bytes the text has. -/
def byteLength (index : LineIndex) : Nat :=
  Text.byteLength index.text

/-- The last line that begins at or before an offset. -/
def lineOf (index : LineIndex) (offset : Nat) : Nat :=
  countUpTo index.starts offset - 1

theorem lineOf_lt (index : LineIndex) (offset : Nat) :
    index.lineOf offset < index.starts.size := by
  have := countUpTo_le_size index.starts offset
  have := index.starts_pos
  unfold lineOf
  omega

/-- The line that holds an offset, if the text reaches that far. The offset at the very end is in
the last line. -/
def lineAt? (index : LineIndex) (offset : Nat) : Option Nat :=
  if offset ≤ index.byteLength then some (index.lineOf offset) else none

/-- Where the line of an offset begins. -/
def lineStart (index : LineIndex) (offset : Nat) : Nat :=
  have := index.lineOf_lt offset
  index.starts[index.lineOf offset]

/-- The text of the line that holds an offset, with its terminator, and nothing past the end. -/
def lineText (index : LineIndex) (offset : Nat) : List Char :=
  if offset ≤ index.byteLength then
    let start := index.lineStart offset
    let stop := index.starts[index.lineOf offset + 1]?.getD index.byteLength
    Text.startingBefore (stop - start) (Text.startingFrom start index.text)
  else []

/-- The line of an offset and the distance in bytes from its beginning. -/
def lineColumn? (index : LineIndex) (offset : Nat) : Option (Nat × Nat) :=
  (index.lineAt? offset).map fun line => (line, offset - index.lineStart offset)

end LineIndex

end DiagnosticRelay
