import DiagnosticRelay.Text.Bytes

/-!
# Lines

A line ends after a line feed, after a form feed, and after a carriage return that no line feed
follows, so a carriage return and a line feed together end one line. A line keeps its terminator;
the last line has none and may be empty. `lines` is the decomposition, `lineStarts` lists the
offsets at which the lines begin.
-/

namespace DiagnosticRelay.Text

/-- Whether a line ends after `c`, when `rest` follows it. -/
def endsLine (c : Char) (rest : List Char) : Bool :=
  c == '\n' || c == '\x0c' || (c == '\r' && rest.head? != some '\n')

/-- The lines of a text with their terminators. Each character belongs to one line, and there is
always a last line. -/
def lines : List Char → List (List Char)
  | [] => [[]]
  | c :: rest =>
    if endsLine c rest then [c] :: lines rest else (lines rest).modifyHead (c :: ·)

/-- Offsets directly after each terminator, when the text begins at offset `start`. -/
def breaksFrom (start : Nat) : List Char → List Nat
  | [] => []
  | c :: rest =>
    if endsLine c rest then (start + c.utf8Size) :: breaksFrom (start + c.utf8Size) rest
    else breaksFrom (start + c.utf8Size) rest

/-- The offset of the first byte of every line. -/
def lineStarts (text : List Char) : List Nat :=
  0 :: breaksFrom 0 text

@[simp] theorem lines_ne_nil (text : List Char) : lines text ≠ [] := by
  induction text with
  | nil => simp [lines]
  | cons c rest ih =>
    rw [lines]
    split
    · simp
    · cases h : lines rest <;> simp_all [List.modifyHead]

/-- Nothing is lost or added by cutting a text into lines. -/
@[simp] theorem flatten_lines (text : List Char) : (lines text).flatten = text := by
  induction text with
  | nil => simp [lines]
  | cons c rest ih =>
    rw [lines]
    split
    · simp [ih]
    · cases h : lines rest <;> simp_all [List.modifyHead]

/-- A line without its terminator. One terminator is removed: a line feed, with the carriage
return before it if there is one, or a form feed. A carriage return alone is kept. -/
def stripTerminator : List Char → List Char
  | [] => []
  | ['\n'] => []
  | ['\x0c'] => []
  | ['\r', '\n'] => []
  | c :: rest => c :: stripTerminator rest

/-- The blank that takes the width of `c`: a tab for a tab, a space for any other character. -/
def blankFor (c : Char) : Char :=
  if c = '\t' then '\t' else ' '

/-- Blanks that reach column `column` when they are printed below `line`. Columns past the end of
the line are spaces. -/
def alignment (line : List Char) (column : Nat) : List Char :=
  (line.take column).map blankFor ++ List.replicate (column - line.length) ' '

@[simp] theorem length_alignment (line : List Char) (column : Nat) :
    (alignment line column).length = column := by
  simp [alignment]
  omega

end DiagnosticRelay.Text
