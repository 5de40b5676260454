import DiagnosticRelay.Diagnostic
import DiagnosticRelay.Severity

/-!
# Explain policies

A policy decides for each diagnostic of a run whether its explanation is shown. It may remember
what it was asked before, so it is a machine: the answer and the next memory depend on the memory
and the diagnostic.
-/

namespace DiagnosticRelay

/-- A policy with a memory of type `σ`. -/
structure ExplainPolicy (σ : Type) where
  /-- The memory at the beginning of a run. -/
  start : σ
  /-- The answer for a diagnostic, and the memory after it. -/
  ask : σ → Diagnostic → Bool × σ

namespace ExplainPolicy

/-- The policy that gives the same answer to every diagnostic. -/
def always (answer : Bool) : ExplainPolicy Unit where
  start := ()
  ask _ _ := (answer, ())

/-- The policy that, if it is switched on, explains the diagnostics of the given severities. A code
that stands for no severity is not explained. -/
def switch (enabled : Bool) (severities : List Severity) : ExplainPolicy Unit where
  start := ()
  ask _ diagnostic :=
    (enabled && (Severity.ofCode? diagnostic.code).any severities.contains, ())

/-- The policy that explains each message text at most once, when `inner` agrees. The memory keeps
the texts explained so far. A message without an explanation has nothing to show, so its text is
not remembered. -/
def once {σ : Type} (inner : ExplainPolicy σ) : ExplainPolicy (σ × List String) where
  start := (inner.start, [])
  ask := fun (memory, explained) diagnostic =>
    let (agreed, memory) := inner.ask memory diagnostic
    let text := diagnostic.message.text
    if !agreed then (false, memory, explained)
    else if !diagnostic.message.hasExplanation then (true, memory, explained)
    else if explained.contains text then (false, memory, explained)
    else (true, memory, text :: explained)

@[simp] theorem ask_always (answer : Bool) (memory : Unit) (diagnostic : Diagnostic) :
    (always answer).ask memory diagnostic = (answer, ()) := rfl

/-- The restriction to one explanation asks the policy exactly once, whatever it answers itself. -/
theorem ask_once_memory {σ : Type} (inner : ExplainPolicy σ) (memory : σ)
    (explained : List String) (diagnostic : Diagnostic) :
    (inner.once.ask (memory, explained) diagnostic).2.1 = (inner.ask memory diagnostic).2 := by
  simp only [once]
  split
  · rfl
  · split
    · rfl
    · split <;> rfl

/-- The restriction to one explanation never explains what the policy refuses. -/
theorem ask_once_imp {σ : Type} (inner : ExplainPolicy σ) (memory : σ)
    (explained : List String) (diagnostic : Diagnostic)
    (h : (inner.once.ask (memory, explained) diagnostic).1 = true) :
    (inner.ask memory diagnostic).1 = true := by
  cases refused : (inner.ask memory diagnostic).1 with
  | false => simp [once, refused] at h
  | true => rfl

end ExplainPolicy

end DiagnosticRelay
