import DiagnosticRelay.Problem

/-!
# Consoles

A console prints problems as they arrive and counts them by severity. Its summary names the
warnings and the errors so far. A console whose sink fails prints nothing but still counts.
-/

namespace DiagnosticRelay

/-- How many problems there were of each severity. -/
structure Tally where
  errors : Nat := 0
  warnings : Nat := 0
  infos : Nat := 0
deriving DecidableEq, Repr

namespace Tally

/-- How many problems there were of one severity. -/
def count (tally : Tally) : Severity → Nat
  | .error => tally.errors
  | .warning => tally.warnings
  | .info => tally.infos

/-- One more problem of a severity. -/
def add (tally : Tally) : Severity → Tally
  | .error => { tally with errors := tally.errors + 1 }
  | .warning => { tally with warnings := tally.warnings + 1 }
  | .info => { tally with infos := tally.infos + 1 }

theorem count_add (tally : Tally) (added severity : Severity) :
    (tally.add added).count severity =
      tally.count severity + if added = severity then 1 else 0 := by
  cases added <;> cases severity <;> rfl

/-- The sentence for a number of things, which says nothing of none. -/
def found (n : Nat) (noun : String) : List String :=
  if n = 0 then []
  else if n = 1 then [s!"1 {noun} found"]
  else [s!"{n} {noun}s found"]

/-- The summary: a line for the warnings and a line for the errors, each if there were any. -/
def summary (tally : Tally) : String :=
  "\n".intercalate (found tally.warnings "warning" ++ found tally.errors "error")

end Tally

/-- Whether what is written arrives. -/
inductive Sink where
  | working
  | failing
deriving DecidableEq, Repr

/-- A console with what it has printed and counted so far. -/
structure Console where
  /-- Whether printing succeeds. -/
  sink : Sink := .working
  /-- The problems counted so far. -/
  tally : Tally := {}
  /-- The text printed so far. -/
  printed : String := ""
deriving DecidableEq, Repr

namespace Console

/-- Print a text and a line feed. A sink that fails swallows both. -/
def printLine (console : Console) (text : String) : Console :=
  match console.sink with
  | .working => { console with printed := console.printed ++ text ++ "\n" }
  | .failing => console

/-- Count a problem and print its text. -/
def log (console : Console) (problem : Problem) : Console :=
  { console with tally := console.tally.add problem.severity }.printLine problem.rendered

@[simp] theorem tally_printLine (console : Console) (text : String) :
    (console.printLine text).tally = console.tally := by
  cases h : console.sink <;> simp [printLine, h]

@[simp] theorem sink_printLine (console : Console) (text : String) :
    (console.printLine text).sink = console.sink := by
  cases h : console.sink <;> simp [printLine, h]

@[simp] theorem tally_log (console : Console) (problem : Problem) :
    (console.log problem).tally = console.tally.add problem.severity := by
  simp [log]

@[simp] theorem sink_log (console : Console) (problem : Problem) :
    (console.log problem).sink = console.sink := by
  simp [log]

/-- The summary of the problems so far. -/
def summary (console : Console) : String :=
  console.tally.summary

/-- Print the summary, unless it is empty. -/
def printSummary (console : Console) : Console :=
  if console.summary.isEmpty then console else console.printLine console.summary

@[simp] theorem tally_printSummary (console : Console) :
    console.printSummary.tally = console.tally := by
  unfold printSummary
  split <;> simp

end Console

end DiagnosticRelay
