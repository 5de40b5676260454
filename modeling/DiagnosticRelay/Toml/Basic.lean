/-!
# TOML values

What a TOML document says, once its tables are put together. Floats and moments are checked for
their form when they are read; which one was written makes no difference to any reader here, so
their values are not kept.
-/

namespace DiagnosticRelay

/-- A TOML value. Keys of a table are distinct and keep the order of their first use. -/
inductive Toml where
  | string (text : String)
  | integer (value : Int)
  | float
  | boolean (value : Bool)
  /-- A date, a time, or both. -/
  | moment
  | array (items : List Toml)
  | table (entries : List (String × Toml))

namespace Toml

/-- The characters that may stand between the parts of a line. -/
def isBlank (c : Char) : Bool :=
  c == ' ' || c == '\t'

/-- Whether a character may stand in a comment: no control character but a tab. -/
def isCommentChar (c : Char) : Bool :=
  c == '\t' || (0x20 ≤ c.toNat && c.toNat != 0x7F)

/-- What follows the blanks at the beginning of a text. -/
def skipBlanks (cs : List Char) : List Char :=
  cs.dropWhile isBlank

end Toml

end DiagnosticRelay
