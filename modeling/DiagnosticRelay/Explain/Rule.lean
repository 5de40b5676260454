import DiagnosticRelay.Explain.Policy

/-!
# Explain rules

The policies that can be chosen by name: a fixed answer, a switch for some severities, and either
of these restricted to one explanation per message text. A rule is data, its policy is the machine.
-/

namespace DiagnosticRelay

/-- A policy that can be written down. -/
inductive ExplainRule where
  /-- The same answer to every diagnostic. -/
  | always (answer : Bool)
  /-- Explains the given severities, if it is enabled. -/
  | switch (enabled : Bool) (severities : List Severity)
  /-- Explains each message text at most once. -/
  | once (inner : ExplainRule)
deriving DecidableEq, Repr

namespace ExplainRule

/-- What a rule remembers in a run. -/
def Memory : ExplainRule → Type
  | always _ => Unit
  | switch _ _ => Unit
  | once inner => inner.Memory × List String

/-- The policy of a rule. -/
def policy : (rule : ExplainRule) → ExplainPolicy rule.Memory
  | always answer => .always answer
  | switch enabled severities => .switch enabled severities
  | once inner => inner.policy.once

end ExplainRule

end DiagnosticRelay
