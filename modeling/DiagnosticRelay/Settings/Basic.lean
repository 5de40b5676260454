import DiagnosticRelay.Explain.Rule
import DiagnosticRelay.Rendering
import DiagnosticRelay.Toml.Basic

/-!
# Settings

The settings of a run: which diagnostics are explained, and whether the line of text is shown. They
determine the explain rule and the rendering, and have a form of their own as a TOML table.
-/

namespace DiagnosticRelay

/-- Which diagnostics are explained. -/
structure ExplainSettings where
  /-- Whether any are. -/
  enabled : Bool := false
  /-- Whether each message text is explained at most once. -/
  once : Bool := false
  /-- The severities of those that are; order and repeats are kept but make no difference. -/
  severities : List Severity := Severity.all
deriving DecidableEq, Repr

/-- How problems are rendered. -/
structure RenderSettings where
  /-- Whether the line of text is shown below the message. -/
  showSource : Bool := true
deriving DecidableEq, Repr

/-- The settings of a run. -/
structure Settings where
  explain : ExplainSettings := {}
  render : RenderSettings := {}
deriving DecidableEq, Repr

namespace Settings

/-- The explain rule that the settings choose. -/
def rule (settings : Settings) : ExplainRule :=
  let switch := .switch settings.explain.enabled settings.explain.severities
  if settings.explain.once then .once switch else switch

/-- The rendering that the settings choose. -/
def rendering (settings : Settings) : Rendering :=
  .plain settings.render.showSource

/-- The settings as the root table of a document, with every field written out. -/
def toToml (settings : Settings) : List (String × Toml) :=
  [("explain", .table
      [("enabled", .boolean settings.explain.enabled),
       ("once", .boolean settings.explain.once),
       ("levels", .array (settings.explain.severities.map fun severity => .string severity.tag))]),
   ("render", .table [("show_source", .boolean settings.render.showSource)])]

end Settings

end DiagnosticRelay
