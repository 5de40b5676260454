import DiagnosticRelay.Source.Basic

/-!
# Locations

Where a diagnostic points: nowhere, or at an offset of a source. Lines count from zero and columns
count bytes, as the producer of the diagnostic counts them.
-/

namespace DiagnosticRelay

/-- Where a diagnostic points. -/
inductive Location where
  /-- The diagnostic is about no place in particular. -/
  | nowhere
  /-- The diagnostic is about the place at an offset of a source, counted in bytes. -/
  | within (source : Source) (offset : Nat)

/-- The largest line index and the largest line number: lines are 32-bit numbers. -/
def maxLine : Nat := 2147483647

namespace Location

/-- The line index that says that the line is not known. -/
def unknownLine : Int := -2

/-- Whether there is a place at all. -/
def isKnown : Location → Bool
  | nowhere => false
  | within _ _ => true

/-- The offset pointed at. -/
def offset? : Location → Option Nat
  | nowhere => none
  | within _ offset => some offset

/-- The source pointed into; the absent one if there is no place. -/
def source : Location → Source
  | nowhere => .absent
  | within source _ => source

/-- The index of the line, or `unknownLine` if the source does not know it or it is beyond the
largest line index. -/
def line : Location → Int
  | nowhere => unknownLine
  | within source offset =>
    match source.lineAt? offset with
    | some index => if index ≤ maxLine then index else unknownLine
    | none => unknownLine

/-- The distance in bytes from the beginning of the line. A line that begins after the offset gives
distance zero. -/
def column? : Location → Option Nat
  | nowhere => none
  | within source offset => some (offset - source.lineStart offset)

/-- The text of the line, with its terminator. -/
def lineText : Location → String
  | nowhere => ""
  | within source offset => source.lineText offset

end Location

end DiagnosticRelay
