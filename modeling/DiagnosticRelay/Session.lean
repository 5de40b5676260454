import DiagnosticRelay.Explain.Rule
import DiagnosticRelay.Relay

/-!
# Sessions

A session is a run whose explain rule can be replaced on the way. It offers what a relay offers,
and each of its single steps: to ask the rule, to render without forwarding, to summarise.
-/

namespace DiagnosticRelay

/-- A run in progress with its rule and rendering. -/
structure Session where
  rendering : Rendering
  rule : ExplainRule
  state : Relay.State rule.Memory

namespace Session

/-- A session that begins with nothing remembered. -/
def start (rule : ExplainRule) (rendering : Rendering) (console : Console) : Session :=
  ⟨rendering, rule, ⟨rule.policy.start, console⟩⟩

/-- The relay that the session runs. -/
def relay (session : Session) : Relay session.rule.Memory :=
  ⟨session.rendering, session.rule.policy⟩

/-- The console of the session. -/
def console (session : Session) : Console :=
  session.state.console

/-- Forward the problem that a diagnostic becomes. No session comes with a refusal, since it leaves
the state as it was (`Relay.state_of_refusal`). -/
def report (session : Session) (diagnostic : Diagnostic) : Except BadCode (Problem × Session) :=
  let (result, state) := session.relay.report session.state diagnostic
  result.map fun problem => (problem, { session with state := state })

/-- Forward diagnostics in order up to the first one that is refused. -/
def reportAll (session : Session) (diagnostics : List Diagnostic) :
    List Problem × Option BadCode × Session :=
  let outcome := session.relay.reportAll session.state diagnostics
  (outcome.problems, outcome.refusal?, { session with state := outcome.state })

/-- The text of a diagnostic, without forwarding it. The rule remembers that it was asked. -/
def render (session : Session) (diagnostic : Diagnostic) (severity : Severity) :
    String × Session :=
  let (text, memory) := session.relay.render session.state.memory diagnostic severity
  (text, { session with state := { session.state with memory := memory } })

/-- Ask the rule about a diagnostic. -/
def ask (session : Session) (diagnostic : Diagnostic) : Bool × Session :=
  let (answer, memory) := session.rule.policy.ask session.state.memory diagnostic
  (answer, { session with state := { session.state with memory := memory } })

/-- Print the summary of the problems so far. -/
def printSummary (session : Session) : Session :=
  { session with state := { session.state with console := session.console.printSummary } }

/-- Replace the rule by one that remembers nothing. -/
def setRule (session : Session) (rule : ExplainRule) : Session :=
  start rule session.rendering session.console

end Session

end DiagnosticRelay
