import DiagnosticRelay.Console
import DiagnosticRelay.Explain.Policy
import DiagnosticRelay.Rendering

/-!
# The relay

The relay takes diagnostics one by one, turns each into a problem and hands it to a console. A
diagnostic whose code stands for no severity is refused before the policy is asked and before
anything is logged, so a refusal changes neither the policy's memory nor the console.
-/

namespace DiagnosticRelay

/-- How the diagnostics of a run are put into words and which of them are explained. -/
structure Relay (σ : Type) where
  rendering : Rendering
  policy : ExplainPolicy σ

namespace Relay

variable {σ : Type}

/-- The text of a diagnostic whose severity is known. The policy is asked exactly once; its answer
counts only if there is something to explain. -/
def render (relay : Relay σ) (memory : σ) (diagnostic : Diagnostic) (severity : Severity) :
    String × σ :=
  let message := diagnostic.message
  let short := relay.rendering.short message diagnostic.location severity.label
  let (agreed, memory) := relay.policy.ask memory diagnostic
  if agreed && message.hasExplanation then
    (short ++ relay.rendering.explanation message, memory)
  else (short, memory)

/-- A run in progress: the policy's memory and the console. -/
structure State (σ : Type) where
  memory : σ
  console : Console

/-- The state before the first diagnostic. -/
def start (relay : Relay σ) (console : Console) : State σ :=
  ⟨relay.policy.start, console⟩

/-- Forward the problem that a diagnostic becomes. The state afterwards comes with a refusal, too:
whatever had been asked or logged by then would be seen in it. -/
def report (relay : Relay σ) (state : State σ) (diagnostic : Diagnostic) :
    Except BadCode Problem × State σ :=
  match Severity.classify diagnostic.code with
  | .error bad => (.error bad, state)
  | .ok severity =>
    let placement := Placement.ofLocation diagnostic.location
    let (rendered, memory) := relay.render state.memory diagnostic severity
    let problem := ⟨placement, diagnostic.message.text, severity, rendered⟩
    (.ok problem, ⟨memory, state.console.log problem⟩)

section Refusal

variable {relay : Relay σ} {state : State σ} {diagnostic : Diagnostic} {bad : BadCode}

/-- A diagnostic is refused exactly if its code stands for no severity, and the refusal names the
code. -/
theorem report_eq_error_iff :
    (relay.report state diagnostic).1 = .error bad ↔
      Severity.ofCode? diagnostic.code = none ∧ bad = ⟨diagnostic.code⟩ := by
  rw [← Severity.classify_eq_error_iff]
  cases h : Severity.classify diagnostic.code <;> simp [report, h]

/-- A refusal leaves the state as it was. -/
theorem state_of_refusal (refused : (relay.report state diagnostic).1 = .error bad) :
    (relay.report state diagnostic).2 = state := by
  cases h : Severity.classify diagnostic.code with
  | error => simp only [report, h]
  | ok => simp [report, h] at refused

end Refusal

/-- What came of a list of diagnostics: the problems that were forwarded, the refusal at which the
run stopped, if it did, and the state afterwards. -/
structure Outcome (σ : Type) where
  problems : List Problem
  refusal? : Option BadCode
  state : State σ

/-- Forward diagnostics in order up to the first one that is refused. -/
def reportAll (relay : Relay σ) (state : State σ) : List Diagnostic → Outcome σ
  | [] => ⟨[], none, state⟩
  | diagnostic :: rest =>
    match relay.report state diagnostic with
    | (.error bad, state) => ⟨[], some bad, state⟩
    | (.ok problem, state) =>
      let outcome := relay.reportAll state rest
      { outcome with problems := problem :: outcome.problems }

end Relay

end DiagnosticRelay
