import DiagnosticRelay.Location

/-!
# Diagnostics

A diagnostic as its producer sends it: a numeric code for the severity, which is not checked yet,
a message with an optional explanation, and a location.
-/

namespace DiagnosticRelay

/-- A message with an optional long explanation. -/
structure Message where
  /-- The short text. -/
  text : String
  /-- The long explanation, if there is one. -/
  explanation? : Option String
deriving DecidableEq, Repr

namespace Message

/-- The explanation, empty if there is none. -/
def explanation (message : Message) : String :=
  message.explanation?.getD ""

/-- Whether there is something to explain. An empty explanation counts as none. -/
def hasExplanation (message : Message) : Bool :=
  !message.explanation.isEmpty

end Message

/-- A diagnostic as its producer sends it. -/
structure Diagnostic where
  /-- The code of the severity, any 32-bit number. -/
  code : Int
  /-- What the diagnostic says. -/
  message : Message
  /-- What the diagnostic is about. -/
  location : Location

end DiagnosticRelay
