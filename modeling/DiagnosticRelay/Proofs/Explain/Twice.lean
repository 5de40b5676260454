import DiagnosticRelay.Explain.Policy
import Mathlib.Data.List.Forall2

/-!
# Restricted twice

A policy that is restricted to one explanation per message text explains no text a second time, so
to restrict it once more changes nothing. The policy is any machine. Both restrictions keep a memory
of their own, and the outer one is asked only about what the inner one lets through; still they
remember the same texts at any time, and this is the invariant that ties the two runs together.
-/

namespace DiagnosticRelay.ExplainPolicy

variable {σ τ : Type}

/-! ## Runs of a policy -/

/-- The answers to diagnostics that are asked about one after another. -/
def answers (policy : ExplainPolicy σ) (memory : σ) : List Diagnostic → List Bool
  | [] => []
  | diagnostic :: rest =>
    (policy.ask memory diagnostic).1 :: policy.answers (policy.ask memory diagnostic).2 rest

/-- The memory after diagnostics that are asked about one after another. -/
def memoryAfter (policy : ExplainPolicy σ) (memory : σ) : List Diagnostic → σ
  | [] => memory
  | diagnostic :: rest => policy.memoryAfter (policy.ask memory diagnostic).2 rest

@[simp] theorem answers_nil (policy : ExplainPolicy σ) (memory : σ) :
    policy.answers memory [] = [] := rfl

@[simp] theorem answers_cons (policy : ExplainPolicy σ) (memory : σ) (diagnostic : Diagnostic)
    (rest : List Diagnostic) :
    policy.answers memory (diagnostic :: rest) =
      (policy.ask memory diagnostic).1 :: policy.answers (policy.ask memory diagnostic).2 rest :=
  rfl

@[simp] theorem memoryAfter_nil (policy : ExplainPolicy σ) (memory : σ) :
    policy.memoryAfter memory [] = memory := rfl

@[simp] theorem memoryAfter_cons (policy : ExplainPolicy σ) (memory : σ) (diagnostic : Diagnostic)
    (rest : List Diagnostic) :
    policy.memoryAfter memory (diagnostic :: rest) =
      policy.memoryAfter (policy.ask memory diagnostic).2 rest := rfl

/-- A policy does in the memories that `embed` picks out what another policy does. -/
def Follows (policy : ExplainPolicy σ) (other : ExplainPolicy τ) (embed : τ → σ) : Prop :=
  ∀ memory diagnostic, policy.ask (embed memory) diagnostic =
    ((other.ask memory diagnostic).1, embed (other.ask memory diagnostic).2)

/-- From corresponding memories, both give the same answers and come to corresponding memories. -/
theorem Follows.run {policy : ExplainPolicy σ} {other : ExplainPolicy τ} {embed : τ → σ}
    (follows : policy.Follows other embed) (memory : τ) (run : List Diagnostic) :
    policy.answers (embed memory) run = other.answers memory run ∧
      policy.memoryAfter (embed memory) run = embed (other.memoryAfter memory run) := by
  induction run generalizing memory with
  | nil => simp
  | cons diagnostic rest ih =>
      obtain ⟨answers, after⟩ := ih (other.ask memory diagnostic).2
      rw [answers_cons, answers_cons, memoryAfter_cons, memoryAfter_cons, follows memory diagnostic]
      exact ⟨congrArg _ answers, after⟩

/-! ## Restrictions -/

variable (policy : ExplainPolicy σ)

/-- Where both restrictions remember the same texts, the outer one agrees to what the inner one lets
through and remembers what that one remembers. -/
theorem follows_once_once :
    policy.once.once.Follows policy.once fun memory => (memory, memory.2) := by
  rintro ⟨memory, explained⟩ diagnostic
  cases agreed : (policy.ask memory diagnostic).1 with
  | false => simp [once, agreed]
  | true =>
      cases full : diagnostic.message.hasExplanation with
      | false => simp [once, agreed, full]
      | true =>
          cases seen : explained.contains diagnostic.message.text with
          | true =>
              simp only [once, agreed, full, seen]
              rfl
          | false =>
              simp only [once, agreed, full, seen]
              rfl

/-- The policy is asked once for every diagnostic, whatever it is restricted to. -/
theorem memoryAfter_once (memory : σ) (explained : List String) (run : List Diagnostic) :
    (policy.once.memoryAfter (memory, explained) run).1 = policy.memoryAfter memory run := by
  induction run generalizing memory explained with
  | nil => simp
  | cons diagnostic rest ih =>
      have asked := ask_once_memory policy memory explained diagnostic
      rw [memoryAfter_cons, memoryAfter_cons, ← asked, ← ih]

/-- Nothing is explained that the policy itself would not explain there. -/
theorem answers_once (memory : σ) (explained : List String) (run : List Diagnostic) :
    List.Forall₂ (fun shown accepted => shown = true → accepted = true)
      (policy.once.answers (memory, explained) run) (policy.answers memory run) := by
  induction run generalizing memory explained with
  | nil => simp
  | cons diagnostic rest ih =>
      have asked := ask_once_memory policy memory explained diagnostic
      rw [answers_cons, answers_cons, ← asked]
      exact .cons (ask_once_imp policy memory explained diagnostic) (ih ..)

/-- A policy restricted twice answers every diagnostic of a run as the policy restricted once does,
and both leave the policy in the memory in which the run leaves the policy alone. What is explained
is accepted by the policy, asked in that memory. -/
theorem once_once_run (run : List Diagnostic) :
    policy.once.once.answers policy.once.once.start run =
        policy.once.answers policy.once.start run ∧
      (policy.once.once.memoryAfter policy.once.once.start run).1.1 =
        (policy.once.memoryAfter policy.once.start run).1 ∧
      (policy.once.memoryAfter policy.once.start run).1 = policy.memoryAfter policy.start run ∧
      List.Forall₂ (fun shown accepted => shown = true → accepted = true)
        (policy.once.answers policy.once.start run) (policy.answers policy.start run) := by
  obtain ⟨answers, after⟩ := (follows_once_once policy).run policy.once.start run
  refine ⟨answers, ?_, ?_, ?_⟩
  · exact congrArg (fun memory => memory.1.1) after
  · exact memoryAfter_once policy policy.start [] run
  · exact answers_once policy policy.start [] run

end DiagnosticRelay.ExplainPolicy
