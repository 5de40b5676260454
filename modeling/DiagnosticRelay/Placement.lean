import DiagnosticRelay.Location

/-!
# Placements

A placement is a location made ready for people: lines count from one, columns count characters,
and the line of text comes without its terminator and with the blanks that put a caret below the
column. What is not known is left out, field by field: a location that points nowhere knows
nothing, one in a source that cannot be resolved keeps its line but neither path nor column, and
one past the end of its source keeps its path but no column.
-/

namespace DiagnosticRelay

/-- What is known of a location. -/
structure Placement where
  /-- The file on disk. -/
  file? : Option String
  /-- How the source is called. -/
  path? : Option String
  /-- The line, counted from one. -/
  line? : Option Nat
  /-- The text of the line, without its terminator. -/
  lineText? : Option String
  /-- The offset in the source, in bytes. -/
  offset? : Option Nat
  /-- The column in the line, counted in characters from zero. -/
  column? : Option Nat
  /-- Blanks that put a caret below the column. -/
  alignment? : Option String
deriving DecidableEq, Repr

/-- The number of the line with a given index, which counts from zero. Negative numbers, such as
that of an unknown line, and numbers beyond the largest line are left out. -/
def lineNumber? (index : Int) : Option Nat :=
  if 0 ≤ index + 1 ∧ index + 1 ≤ maxLine then some (index + 1).toNat else none

namespace Placement

/-- The placement of which nothing is known. -/
def empty : Placement :=
  ⟨none, none, none, none, none, none, none⟩

/-- Whether nothing is known. -/
def isEmpty (placement : Placement) : Bool :=
  placement = empty

/-- The column of an offset in a source that knows the offset's line: the number of characters of
the line, terminator included, that start before the offset. -/
def columnIn? (source : Source) (offset : Nat) : Option Nat :=
  (source.lineAt? offset).map fun _ =>
    (Text.startingBefore (offset - source.lineStart offset) (source.lineText offset).toList).length

/-- What is known of a location. -/
def ofLocation : Location → Placement
  | .nowhere => empty
  | .within source offset =>
    let line := Text.stripTerminator (source.lineText offset).toList
    let column? := if source.resolved then columnIn? source offset else none
    { file? := if source.resolved then source.file? else none
      path? := if source.resolved then some source.path else none
      line? := lineNumber? (Location.within source offset).line
      lineText? := some (.ofList line)
      offset? := some offset
      column? := column?
      alignment? := column?.map fun column => .ofList (Text.alignment line column) }

@[simp] theorem ofLocation_nowhere : ofLocation .nowhere = empty := rfl

end Placement

end DiagnosticRelay
