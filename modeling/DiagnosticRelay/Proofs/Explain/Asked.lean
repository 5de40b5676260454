import DiagnosticRelay.Explain.Rule

/-!
# What rules look at

A rule sees of a diagnostic its code, its text, and whether there is something to explain. It
answers two diagnostics alike that agree in these, and remembers the same of them, whatever the
explanations are and wherever the diagnostics point.
-/

namespace DiagnosticRelay

namespace ExplainPolicy

variable {diagnostic diagnostic' : Diagnostic}

theorem ask_switch_congr (code : diagnostic'.code = diagnostic.code) (enabled : Bool)
    (severities : List Severity) (memory : Unit) :
    (switch enabled severities).ask memory diagnostic' =
      (switch enabled severities).ask memory diagnostic := by
  simp only [switch, code]

theorem ask_once_congr {σ : Type} {inner : ExplainPolicy σ} {memory : σ}
    (asked : inner.ask memory diagnostic' = inner.ask memory diagnostic)
    (text : diagnostic'.message.text = diagnostic.message.text)
    (explains : diagnostic'.message.hasExplanation = diagnostic.message.hasExplanation)
    (explained : List String) :
    inner.once.ask (memory, explained) diagnostic' =
      inner.once.ask (memory, explained) diagnostic := by
  simp only [once, asked, text, explains]

end ExplainPolicy

namespace ExplainRule

theorem ask_congr (rule : ExplainRule) {diagnostic diagnostic' : Diagnostic}
    (code : diagnostic'.code = diagnostic.code)
    (text : diagnostic'.message.text = diagnostic.message.text)
    (explains : diagnostic'.message.hasExplanation = diagnostic.message.hasExplanation)
    (memory : rule.Memory) :
    rule.policy.ask memory diagnostic' = rule.policy.ask memory diagnostic := by
  induction rule with
  | always answer => rfl
  | switch enabled severities =>
      exact ExplainPolicy.ask_switch_congr code enabled severities memory
  | once inner ih => exact ExplainPolicy.ask_once_congr (ih memory.1) text explains memory.2

end ExplainRule

end DiagnosticRelay
