import DiagnosticRelay.Proofs.Relay.Run
import Mathlib.Data.List.Induction

/-!
# One explanation per message text

A policy without a memory of its own, restricted to one explanation per message text, explains the
first diagnostic of each text that has something to explain and that the policy accepts. Its memory
holds the texts of exactly these diagnostics of the past. Every report keeps this invariant: one
that is refused, one that the policy does not accept, one without an explanation, and one whose text
is remembered already.
-/

namespace DiagnosticRelay

/-! ## One question -/

namespace ExplainPolicy

variable {σ : Type} (inner : ExplainPolicy σ) (memory : σ) (explained : List String)
  (diagnostic : Diagnostic)

/-- What the restricted policy is asked for matters only if there is something to explain. Then
it accepts what the policy accepts, if the text is new, and remembers it. -/
theorem ask_once_eq :
    ((inner.once.ask (memory, explained) diagnostic).1 && diagnostic.message.hasExplanation) =
        ((inner.ask memory diagnostic).1 && diagnostic.message.hasExplanation &&
          !explained.contains diagnostic.message.text) ∧
      (inner.once.ask (memory, explained) diagnostic).2.2 =
        if ((inner.ask memory diagnostic).1 && diagnostic.message.hasExplanation &&
          !explained.contains diagnostic.message.text) then diagnostic.message.text :: explained
        else explained := by
  cases agreed : (inner.ask memory diagnostic).1 with
  | false => simp [once, agreed]
  | true =>
      cases full : diagnostic.message.hasExplanation with
      | false => simp [once, agreed, full]
      | true =>
          cases seen : explained.contains diagnostic.message.text with
          | false =>
              simp only [once, agreed, full, seen]
              exact ⟨rfl, rfl⟩
          | true =>
              simp only [once, agreed, full, seen]
              exact ⟨rfl, rfl⟩

/-- The text of an explanation that the policy accepts is remembered from then on. -/
theorem mem_ask_once_iff {text : String} :
    text ∈ (inner.once.ask (memory, explained) diagnostic).2.2 ↔
      text ∈ explained ∨ (((inner.ask memory diagnostic).1 &&
        diagnostic.message.hasExplanation) = true ∧ diagnostic.message.text = text) := by
  rw [(ask_once_eq inner memory explained diagnostic).2]
  by_cases seen : diagnostic.message.text ∈ explained
  · have old : explained.contains diagnostic.message.text = true := List.contains_iff_mem.mpr seen
    rw [old, Bool.not_true, Bool.and_false, if_neg Bool.false_ne_true]
    constructor
    · exact Or.inl
    · rintro (there | ⟨-, rfl⟩)
      · exact there
      · exact seen
  · have new : explained.contains diagnostic.message.text = false := by simpa using seen
    rw [new, Bool.not_false, Bool.and_true]
    split
    · rename_i accepted
      rw [List.mem_cons, or_comm, eq_comm (a := text)]
      simp only [accepted, true_and]
    · rename_i refused
      constructor
      · exact Or.inl
      · rintro (there | ⟨accepted, -⟩)
        · exact there
        · exact absurd accepted refused

end ExplainPolicy

/-! ## The past -/

/-- A diagnostic with a severity and an explanation that the policy accepts. -/
structure IsEligible (policy : ExplainPolicy Unit) (diagnostic : Diagnostic) : Prop where
  classified : diagnostic.IsClassified
  explained : diagnostic.message.explanation ≠ ""
  accepted : (policy.ask () diagnostic).1 = true

/-- An eligible diagnostic whose text no eligible diagnostic of the past has. -/
def IsFirstAfter (policy : ExplainPolicy Unit) (past : List Diagnostic)
    (diagnostic : Diagnostic) : Prop :=
  IsEligible policy diagnostic ∧ ∀ earlier ∈ past, IsEligible policy earlier →
    earlier.message.text ≠ diagnostic.message.text

/-- The memory holds the texts of the eligible diagnostics of the past. -/
def Remembers (policy : ExplainPolicy Unit) (past : List Diagnostic)
    (memory : Unit × List String) : Prop :=
  ∀ text, text ∈ memory.2 ↔ ∃ earlier ∈ past, IsEligible policy earlier ∧
    earlier.message.text = text

theorem Message.hasExplanation_iff {message : Message} :
    message.hasExplanation = true ↔ message.explanation ≠ "" := by
  simp [Message.hasExplanation]

variable {policy : ExplainPolicy Unit} {past : List Diagnostic} {memory : Unit × List String}
  {diagnostic : Diagnostic} {rendering : Rendering}

theorem isEligible_iff (classified : diagnostic.IsClassified) :
    IsEligible policy diagnostic ↔
      ((policy.ask () diagnostic).1 && diagnostic.message.hasExplanation) = true := by
  rw [Bool.and_eq_true, Message.hasExplanation_iff]
  constructor
  · intro h
    exact ⟨h.accepted, h.explained⟩
  · rintro ⟨accepted, explained⟩
    exact ⟨classified, explained, accepted⟩

namespace Remembers

theorem nil (policy : ExplainPolicy Unit) : Remembers policy [] policy.once.start := by
  intro text
  simp [ExplainPolicy.once]

/-- One more diagnostic adds its text to the memory if it is eligible. -/
theorem append (h : Remembers policy past memory) {memory' : Unit × List String}
    (grown : ∀ text, text ∈ memory'.2 ↔
      text ∈ memory.2 ∨ (IsEligible policy diagnostic ∧ diagnostic.message.text = text)) :
    Remembers policy (past ++ [diagnostic]) memory' := by
  intro text
  rw [grown, h text]
  constructor
  · rintro (⟨earlier, member, eligible, same⟩ | ⟨eligible, same⟩)
    · exact ⟨earlier, List.mem_append_left _ member, eligible, same⟩
    · exact ⟨diagnostic, List.mem_append_right _ (List.mem_singleton_self _), eligible, same⟩
  · rintro ⟨earlier, member, eligible, same⟩
    rcases List.mem_append.mp member with member | member
    · exact Or.inl ⟨earlier, member, eligible, same⟩
    · obtain rfl := List.mem_singleton.mp member
      exact Or.inr ⟨eligible, same⟩

/-- Whatever is reported, the invariant is kept. -/
theorem next {state : Relay.State (Unit × List String)}
    (h : Remembers policy past state.memory) (diagnostic : Diagnostic) :
    Remembers policy (past ++ [diagnostic])
      (Relay.next ⟨rendering, policy.once⟩ state diagnostic).memory := by
  refine h.append ?_
  intro text
  cases known : Severity.ofCode? diagnostic.code with
  | none =>
      have not_eligible : ¬IsEligible policy diagnostic := by
        intro eligible
        exact Diagnostic.not_isClassified_iff.mpr known eligible.classified
      rw [Relay.next_of_no_severity known]
      simp [not_eligible]
  | some severity =>
      rw [Relay.next_of_severity known,
        isEligible_iff (Diagnostic.isClassified_iff.mpr ⟨severity, known⟩)]
      exact policy.mem_ask_once_iff () state.memory.2 diagnostic

/-- The invariant holds after every run. -/
theorem after (console : Console) (past : List Diagnostic) :
    Remembers policy past (Relay.after ⟨rendering, policy.once⟩
      (Relay.start ⟨rendering, policy.once⟩ console) past).memory := by
  induction past using List.reverseRecOn with
  | nil => exact nil policy
  | append_singleton past diagnostic ih =>
      rw [Relay.after_append, Relay.after_singleton]
      exact ih.next diagnostic

/-- An explanation is shown exactly if its diagnostic is the first eligible one of its text. -/
theorem shows_iff (h : Remembers policy past memory)
    (classified : diagnostic.IsClassified) :
    Relay.shows ⟨rendering, policy.once⟩ memory diagnostic = true ↔
      IsFirstAfter policy past diagnostic := by
  have seen := h diagnostic.message.text
  rw [Relay.shows, (ExplainPolicy.ask_once_eq policy () memory.2 diagnostic).1, Bool.and_eq_true,
    ← isEligible_iff classified, Bool.not_eq_true', ← Bool.not_eq_true,
    List.contains_iff_mem, seen, IsFirstAfter]
  simp only [not_exists, not_and, ne_eq]

end Remembers

/-! ## The run -/

variable {run : List Diagnostic} {i j : Nat} {diagnostic' : Diagnostic}

/-- The first eligible diagnostic of a text comes after no other eligible one. -/
theorem IsFirstAfter.not_lt (h : run[i]? = some diagnostic)
    (eligible : IsEligible policy diagnostic)
    (first : IsFirstAfter policy (run.take j) diagnostic')
    (same : diagnostic.message.text = diagnostic'.message.text) : ¬i < j := by
  intro hij
  have earlier : diagnostic ∈ run.take j := by
    apply List.mem_of_getElem?
    rw [List.getElem?_take_of_lt hij]
    exact h
  exact first.2 diagnostic earlier eligible same

/-- Every eligible diagnostic is the first one of its text, or there is one before it. -/
theorem IsEligible.exists_isFirstAfter (h : run[i]? = some diagnostic)
    (eligible : IsEligible policy diagnostic) :
    ∃ j ≤ i, ∃ first, run[j]? = some first ∧ IsFirstAfter policy (run.take j) first ∧
      first.message.text = diagnostic.message.text := by
  induction i using Nat.strongRecOn generalizing diagnostic with
  | ind i ih =>
      by_cases new : IsFirstAfter policy (run.take i) diagnostic
      · exact ⟨i, Nat.le_refl i, diagnostic, h, new, rfl⟩
      · have found : ∃ earlier ∈ run.take i, IsEligible policy earlier ∧
            earlier.message.text = diagnostic.message.text := by
          simpa [IsFirstAfter, eligible] using new
        obtain ⟨earlier, member, eligible', same⟩ := found
        obtain ⟨k, hk, rfl⟩ := List.mem_take_iff_getElem.mp member
        have hki : k < i := by omega
        obtain ⟨j, hj, first, hfirst, new', same'⟩ :=
          ih k hki (List.getElem?_eq_getElem (by omega)) eligible'
        exact ⟨j, by omega, first, hfirst, new', same'.trans same⟩

/-- In a run under a policy without a memory, restricted to one explanation per text, a diagnostic
is explained exactly if it is the first eligible one of its text; one with an unknown code is
refused. So no text is explained twice, and each text of an eligible diagnostic is explained, there
or before. -/
theorem explained_iff_isFirstAfter (rendering : Rendering) (policy : ExplainPolicy Unit)
    (console : Console) (run : List Diagnostic) :
    let relay : Relay (Unit × List String) := ⟨rendering, policy.once⟩
    let results := relay.reportEach (relay.start console) run
    results.length = run.length ∧
    (∀ (i : Nat) (diagnostic : Diagnostic), run[i]? = some diagnostic →
      ¬diagnostic.IsClassified → results[i]? = some (.error ⟨diagnostic.code⟩)) ∧
    (∀ (i : Nat) (diagnostic : Diagnostic) (severity : Severity), run[i]? = some diagnostic →
      diagnostic.code = severity.code → ∃ explained,
        results[i]? = some (.ok (.ofDiagnostic rendering diagnostic severity explained)) ∧
          (explained = true ↔ IsFirstAfter policy (run.take i) diagnostic)) ∧
    (∀ (i j : Nat) (diagnostic diagnostic' : Diagnostic), run[i]? = some diagnostic →
      run[j]? = some diagnostic' → IsFirstAfter policy (run.take i) diagnostic →
      IsFirstAfter policy (run.take j) diagnostic' →
      diagnostic.message.text = diagnostic'.message.text → i = j) ∧
    (∀ (i : Nat) (diagnostic : Diagnostic), run[i]? = some diagnostic →
      IsEligible policy diagnostic →
      ∃ j ≤ i, ∃ first, run[j]? = some first ∧ IsFirstAfter policy (run.take j) first ∧
        first.message.text = diagnostic.message.text) := by
  intro relay results
  refine ⟨Relay.length_reportEach .., ?_, ?_, ?_, ?_⟩
  · intro i diagnostic h unclassified
    have unknown := Diagnostic.not_isClassified_iff.mp unclassified
    rw [Relay.getElem?_reportEach h, Relay.report_of_no_severity unknown]
  · intro i diagnostic severity h code
    have known := Severity.ofCode?_eq_some_iff.mpr code
    have invariant : Remembers policy (run.take i)
        (relay.after (relay.start console) (run.take i)).memory :=
      .after console (run.take i)
    have classified := Diagnostic.isClassified_iff.mpr ⟨severity, known⟩
    refine ⟨relay.shows _ diagnostic, ?_, invariant.shows_iff classified⟩
    rw [Relay.getElem?_reportEach h, Relay.report_of_severity known]
  · intro i j diagnostic diagnostic' h h' first first' same
    have hij := IsFirstAfter.not_lt h first.1 first' same
    have hji := IsFirstAfter.not_lt h' first'.1 first same.symm
    omega
  · intro i diagnostic h eligible
    exact eligible.exists_isFirstAfter h

end DiagnosticRelay
