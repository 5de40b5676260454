/-!
# Severities

The three severities of a diagnostic. Producers send a numeric code, which need not stand for a
severity; people write a name.
-/

namespace DiagnosticRelay

/-- How serious a diagnostic is. -/
inductive Severity where
  | info
  | warning
  | error
deriving DecidableEq, Repr

/-- A name that stands for no severity, in lower case. -/
structure UnknownSeverity where
  /-- The name that was given, its ASCII letters in lower case. -/
  name : String
deriving DecidableEq, Repr

/-- The wording for a name that stands for no severity. -/
def UnknownSeverity.message (unknown : UnknownSeverity) : String :=
  s!"unknown diagnostic level: {unknown.name}"

namespace Severity

/-- All severities, the most serious one first. -/
def all : List Severity := [.error, .warning, .info]

/-- The code that producers send. -/
def code : Severity → Int
  | info => 0
  | warning => 1
  | error => 2

/-- The severity of a code, if the code stands for one. -/
def ofCode? (code : Int) : Option Severity :=
  if code = 0 then some info
  else if code = 1 then some warning
  else if code = 2 then some error
  else none

@[simp] theorem ofCode?_code (severity : Severity) : ofCode? severity.code = some severity := by
  cases severity <;> rfl

/-- A code stands for a severity exactly if the severity has that code. -/
theorem ofCode?_eq_some_iff {code : Int} {severity : Severity} :
    ofCode? code = some severity ↔ code = severity.code := by
  constructor
  · intro h
    unfold ofCode? at h
    split at h
    · cases h; assumption
    · split at h
      · cases h; assumption
      · split at h
        · cases h; assumption
        · cases h
  · rintro rfl
    exact ofCode?_code severity

@[simp] theorem code_inj {severity other : Severity} :
    severity.code = other.code ↔ severity = other := by
  rw [← ofCode?_eq_some_iff, ofCode?_code, Option.some_inj]

/-- The word that heads a rendered message. -/
def label : Severity → String
  | info => "Info"
  | warning => "Warning"
  | error => "Error"

/-- The word in lower case, as settings write it. -/
def tag : Severity → String
  | info => "info"
  | warning => "warning"
  | error => "error"

/-- The severity with exactly the given tag. -/
def ofTag? (tag : String) : Option Severity :=
  if tag = "info" then some info
  else if tag = "warning" then some warning
  else if tag = "error" then some error
  else none

@[simp] theorem ofTag?_tag (severity : Severity) : ofTag? severity.tag = some severity := by
  cases severity <;> rfl

/-- The severity of a name. The case of ASCII letters does not matter, and a warning has a short
name. -/
def ofName (name : String) : Except UnknownSeverity Severity :=
  let lower := name.map Char.toLower
  if lower = "warn" then .ok warning
  else match ofTag? lower with
    | some severity => .ok severity
    | none => .error ⟨lower⟩

end Severity

end DiagnosticRelay
