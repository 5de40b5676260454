import DiagnosticRelay.Placement
import DiagnosticRelay.Severity

/-!
# Problems

A problem is a diagnostic as its receiver gets it: classified, placed and rendered. A diagnostic
whose code stands for no severity becomes none.
-/

namespace DiagnosticRelay

/-- A diagnostic that is ready for its receiver. -/
structure Problem where
  /-- What is known of the place. -/
  placement : Placement
  /-- The text of the message. -/
  message : String
  /-- How serious the problem is. -/
  severity : Severity
  /-- The text to be shown. -/
  rendered : String
deriving DecidableEq, Repr

/-- A code that stands for no severity. -/
structure BadCode where
  /-- The code that was sent. -/
  code : Int
deriving DecidableEq, Repr

namespace BadCode

/-- The wording of the failure. -/
def message (bad : BadCode) : String :=
  s!"Bad diagnostic level: {bad.code}"

/-- The identifier of this kind of failure. -/
def identifier : String := "diagbridge::bad_level"

/-- Advice for whoever meets the failure. -/
def help : String :=
  "the compiler and the reporter bridge disagree on diagnostic level codes; this is a bug"

end BadCode

/-- The severity of a code, or the failure that names the code. -/
def Severity.classify (code : Int) : Except BadCode Severity :=
  match Severity.ofCode? code with
  | some severity => .ok severity
  | none => .error ⟨code⟩

@[simp] theorem Severity.classify_code (severity : Severity) :
    Severity.classify severity.code = .ok severity := by
  simp [Severity.classify]

/-- A failure names the code that was sent. -/
theorem Severity.classify_eq_error_iff {code : Int} {bad : BadCode} :
    Severity.classify code = .error bad ↔ Severity.ofCode? code = none ∧ bad = ⟨code⟩ := by
  cases h : Severity.ofCode? code <;> simp [Severity.classify, h, eq_comm]

end DiagnosticRelay
