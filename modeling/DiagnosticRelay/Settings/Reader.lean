import DiagnosticRelay.Settings.Basic
import DiagnosticRelay.Toml.Document

/-!
# Reading settings

Settings are read from a TOML document. Names that are not known are left aside, and what is not
written keeps its default. A section may also be an array that holds its fields in order, of which
the last ones may be missing and any more are left aside; and a section that is a moment has no
field that is known. Every other value in the place of a section or field is refused.
-/

namespace DiagnosticRelay

/-- Why settings cannot be used. -/
inductive SettingsFailure where
  /-- There is no file, or it is not text. -/
  | unreadable
  /-- The text is not a document, or a field has a value of the wrong kind. -/
  | malformed
deriving DecidableEq, Repr

/-- The wording of a failure. -/
def SettingsFailure.message : SettingsFailure → String
  | unreadable => "Failed to read config file"
  | malformed => "Failed to parse TOML config"

namespace Settings

/-- A switch that keeps its default if it is missing. -/
def boolean? (fallback : Bool) : Option Toml → Option Bool
  | none => some fallback
  | some (.boolean value) => some value
  | some _ => none

/-- A severity: its tag, or a table that maps its tag to something empty. -/
def severity? : Toml → Option Severity
  | .string tag => Severity.ofTag? tag
  | .table [(tag, .table [])] => Severity.ofTag? tag
  | .table [(tag, .array [])] => Severity.ofTag? tag
  | _ => none

/-- A list of severities, all of them if it is missing. -/
def severities? : Option Toml → Option (List Severity)
  | none => some Severity.all
  | some (.array items) => items.mapM severity?
  | some _ => none

/-- The explain section of its three fields. -/
def explainOf? (enabled once severities : Option Toml) : Option ExplainSettings := do
  let enabled ← boolean? false enabled
  let once ← boolean? false once
  let severities ← severities? severities
  return { enabled, once, severities }

/-- The render section of its field. -/
def renderOf? (showSource : Option Toml) : Option RenderSettings :=
  (boolean? true showSource).map fun showSource => { showSource }

/-- The explain section of a value. -/
def explain? : Option Toml → Option ExplainSettings
  | none => some {}
  | some (.table entries) =>
    explainOf? (entries.lookup "enabled") (entries.lookup "once") (entries.lookup "levels")
  | some (.array items) => explainOf? items[0]? items[1]? items[2]?
  | some .moment => explainOf? none none none
  | some _ => none

/-- The render section of a value. -/
def render? : Option Toml → Option RenderSettings
  | none => some {}
  | some (.table entries) => renderOf? (entries.lookup "show_source")
  | some (.array items) => renderOf? items[0]?
  | some .moment => renderOf? none
  | some _ => none

/-- The settings of a root table. -/
def ofToml? (root : List (String × Toml)) : Option Settings := do
  let explain ← explain? (root.lookup "explain")
  let render ← render? (root.lookup "render")
  return { explain, render }

/-- The settings of a text. -/
def parse (text : String) : Except SettingsFailure Settings :=
  match (Toml.parse? text).bind ofToml? with
  | some settings => .ok settings
  | none => .error .malformed

/-- The settings of a file, which must exist and hold text. -/
def load (file? : Option ByteArray) : Except SettingsFailure Settings :=
  match file?.bind String.fromUTF8? with
  | some text => parse text
  | none => .error .unreadable

end Settings

end DiagnosticRelay
