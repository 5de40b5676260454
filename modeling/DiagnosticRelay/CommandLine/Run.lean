import DiagnosticRelay.CommandLine.Arguments
import DiagnosticRelay.Replay
import DiagnosticRelay.Session
import DiagnosticRelay.Settings.Reader
import DiagnosticRelay.Text.Quoted

/-!
# Running the command line

A command is carried out on the contents of files, which any function may give, and results in a
printed text and an exit code. Nothing is printed unless everything that the command needs can be
loaded. A report that meets a code without a severity ends there, without a summary.
-/

namespace DiagnosticRelay.CommandLine

/-- The contents of files by path; a path without contents leads to no file. -/
abbrev Files := String → Option ByteArray

/-- Why the program failed. -/
inductive Failure where
  | usage (error : UsageError)
  | settings (failure : SettingsFailure)
  /-- The source is missing, or it is not text. -/
  | source (path : String)
  | replay (failure : Replay.Failure)
  /-- A diagnostic was refused. -/
  | refused (bad : BadCode)
deriving DecidableEq, Repr

/-- The wording of a failure. -/
def Failure.message : Failure → String
  | usage error => error.message
  | settings failure => failure.message
  | source path => s!"Failed to read {path}"
  | replay failure => failure.message
  | refused bad => s!"{bad.message}\n{BadCode.identifier}: {BadCode.help}"

/-- What came of a run of the program. -/
structure Outcome where
  /-- The text on standard output. -/
  printed : String
  /-- Whether an error was reported. -/
  foundErrors : Bool := false
  failure? : Option Failure := none
deriving DecidableEq, Repr

namespace Outcome

/-- The outcome of a failure before anything is printed. -/
def failed (failure : Failure) : Outcome :=
  { printed := "", failure? := some failure }

/-- The exit code: two for a mistake in the arguments, one for any other failure and for reported
errors, zero otherwise. -/
def exitCode (outcome : Outcome) : Nat :=
  match outcome.failure? with
  | some (.usage _) => 2
  | some _ => 1
  | none => if outcome.foundErrors then 1 else 0

end Outcome

/-- A value, or a dash if there is none. -/
def shown {α : Type} (text : α → String) : Option α → String
  | some value => text value
  | none => "-"

/-- The seven lines that describe a placement. -/
def listing (placement : Placement) : String :=
  s!"source_file:   {shown Text.quote placement.file?}\n" ++
  s!"source_path:   {shown Text.quote placement.path?}\n" ++
  s!"line:          {shown Nat.repr placement.line?}\n" ++
  s!"line_content:  {shown Text.quote placement.lineText?}\n" ++
  s!"offset:        {shown Nat.repr placement.offset?}\n" ++
  s!"pointer:       {shown Nat.repr placement.column?}\n" ++
  s!"pointer_space: {shown Text.quote placement.alignment?}\n"

/-- The source at a path, which must lead to text. -/
def loadSource (files : Files) (path : String) (origin : Origin) : Except Failure Source :=
  match (files path).bind String.fromUTF8? with
  | some content => .ok (SourceText.source ⟨path, origin, content⟩)
  | none => .error (.source path)

/-- The settings of a report: those of the file, or the default ones, with what the options add. -/
def reportSettings (files : Files) (options : ReportOptions) : Except Failure Settings :=
  let loaded := match options.settings? with
    | some path => (Settings.load (files path)).mapError Failure.settings
    | none => .ok {}
  loaded.map fun settings =>
    { explain :=
        { settings.explain with
          enabled := settings.explain.enabled || options.explain || options.explainOnce
          once := settings.explain.once || options.explainOnce }
      render := { showSource := settings.render.showSource && !options.noSource } }

/-- Everything that a report needs: the settings and the diagnostics. -/
def loadReport (files : Files) (options : ReportOptions) :
    Except Failure (Settings × List Diagnostic) := do
  let settings ← reportSettings files options
  let origin := if options.unresolved then Origin.unresolved else .disk
  let source ← loadSource files options.source origin
  let diagnostics ← (Replay.load source (files options.replay)).mapError Failure.replay
  return (settings, diagnostics)

/-- Report diagnostics and print the summary, unless one is refused. -/
def report (settings : Settings) (diagnostics : List Diagnostic) : Outcome :=
  let (_, refusal?, session) :=
    (Session.start settings.rule settings.rendering {}).reportAll diagnostics
  match refusal? with
  | some bad => { printed := session.console.printed, failure? := some (.refused bad) }
  | none =>
    { printed := session.printSummary.console.printed
      foundErrors := session.console.tally.errors != 0 }

/-- The text that the version is printed as. -/
def versionText : String := "diagbridge 0.1.0\n"

/-- Carry out a command. -/
def Command.run (files : Files) : Command → Outcome
  | .version => { printed := versionText }
  | .report options =>
    match loadReport files options with
    | .ok (settings, diagnostics) => CommandLine.report settings diagnostics
    | .error failure => .failed failure
  | .position path offset =>
    match loadSource files path .disk with
    | .ok source => { printed := listing (.ofLocation (.within source offset)) }
    | .error failure => .failed failure

/-- The paths that a command reads. -/
def Command.paths : Command → List String
  | .version => []
  | .report options => options.settings?.toList ++ [options.source, options.replay]
  | .position path _ => [path]

/-- Run the program with arguments. -/
def run (files : Files) (arguments : List String) : Outcome :=
  match Command.parse arguments with
  | .ok command => command.run files
  | .error error => .failed (.usage error)

end DiagnosticRelay.CommandLine
