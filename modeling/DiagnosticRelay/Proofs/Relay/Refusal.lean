import DiagnosticRelay.Proofs.Relay.Run

/-!
# Refusals leave no trace

A relay is asked to report diagnostics and to print summaries, in any order. A refusal names the
code and leaves everything as it was; a report that is not refused forwards one problem and puts one
question to the policy. So a run without the refused requests has the same replies, save the
refusals, and ends in the same state.

The policy is any machine. To say what it is asked, it is given a record in which it writes down
every question with its answer; nothing else changes by that.
-/

namespace DiagnosticRelay

/-- The policy with a record of the questions put to it and its answers, the latest last. -/
def ExplainPolicy.recorded {σ : Type} (policy : ExplainPolicy σ) :
    ExplainPolicy (σ × List (Diagnostic × Bool)) where
  start := (policy.start, [])
  ask := fun (memory, record) diagnostic =>
    let (answer, memory) := policy.ask memory diagnostic
    (answer, memory, record ++ [(diagnostic, answer)])

namespace Relay

/-! ## Requests and replies -/

/-- What a relay is asked to do. -/
inductive Request where
  | report (diagnostic : Diagnostic)
  | printSummary

/-- What comes of a request. -/
inductive Reply where
  | forwarded (problem : Problem)
  | refused (bad : BadCode)
  | summary (text : String)
deriving DecidableEq, Repr

/-- The diagnostic of a report, if its code stands for a severity. -/
def Request.classified? : Request → Option Diagnostic
  | report diagnostic => if diagnostic.IsClassified then some diagnostic else none
  | printSummary => none

theorem Request.classified?_of_classified {diagnostic : Diagnostic}
    (classified : diagnostic.IsClassified) : (report diagnostic).classified? = some diagnostic :=
  if_pos classified

theorem Request.classified?_of_not_classified {diagnostic : Diagnostic}
    (unclassified : ¬diagnostic.IsClassified) : (report diagnostic).classified? = none :=
  if_neg unclassified

/-- Whether a request reports a diagnostic without a severity. -/
def Request.isBad : Request → Bool
  | report diagnostic => !diagnostic.IsClassified
  | printSummary => false

/-- The reply to a report. -/
def Reply.ofResult : Except BadCode Problem → Reply
  | .error bad => refused bad
  | .ok problem => forwarded problem

def Reply.isRefusal : Reply → Bool
  | refused _ => true
  | forwarded _ | summary _ => false

/-- The problem that was forwarded, if one was. -/
def Reply.problem? : Reply → Option Problem
  | forwarded problem => some problem
  | refused _ | summary _ => none

variable {σ : Type} (relay : Relay σ) (state : State σ)

/-- Carry out one request. -/
def perform : Request → Reply × State σ
  | .report diagnostic =>
    let (result, state) := relay.report state diagnostic
    (.ofResult result, state)
  | .printSummary =>
    (.summary state.console.summary, { state with console := state.console.printSummary })

/-- The replies to requests that are carried out one after another. -/
def replies (state : State σ) : List Request → List Reply
  | [] => []
  | request :: rest =>
    (relay.perform state request).1 :: replies (relay.perform state request).2 rest

/-- The state after requests. -/
def afterRequests (requests : List Request) : State σ :=
  requests.foldl (fun state request => (relay.perform state request).2) state

/-- The relay whose policy keeps a record. -/
def recorded : Relay (σ × List (Diagnostic × Bool)) :=
  ⟨relay.rendering, relay.policy.recorded⟩

/-- The state together with a record of questions. -/
def State.withRecord (record : List (Diagnostic × Bool)) : State (σ × List (Diagnostic × Bool)) :=
  ⟨(state.memory, record), state.console⟩

@[simp] theorem afterRequests_nil : relay.afterRequests state [] = state := rfl

@[simp] theorem afterRequests_cons (request : Request) (rest : List Request) :
    relay.afterRequests state (request :: rest) =
      relay.afterRequests (relay.perform state request).2 rest := rfl

/-! ## One request -/

variable {relay state} {diagnostic : Diagnostic} {request : Request}

theorem perform_report_of_severity {severity : Severity}
    (known : Severity.ofCode? diagnostic.code = some severity) :
    relay.perform state (.report diagnostic) =
      let problem := Problem.ofDiagnostic relay.rendering diagnostic severity
        (relay.shows state.memory diagnostic)
      (.forwarded problem,
        ⟨(relay.policy.ask state.memory diagnostic).2, state.console.log problem⟩) := by
  rw [perform, report_of_severity known]
  rfl

theorem perform_report_of_not_classified (unclassified : ¬diagnostic.IsClassified) :
    relay.perform state (.report diagnostic) = (.refused ⟨diagnostic.code⟩, state) := by
  rw [perform, report_of_no_severity (Diagnostic.not_isClassified_iff.mp unclassified)]
  rfl

/-- A bad request is refused and leaves the state as it was. -/
theorem perform_of_isBad (bad : request.isBad = true) :
    (relay.perform state request).1.isRefusal = true ∧
      (relay.perform state request).2 = state := by
  cases request with
  | report diagnostic =>
      have unclassified : ¬diagnostic.IsClassified := by simpa [Request.isBad] using bad
      rw [perform_report_of_not_classified unclassified]
      exact ⟨rfl, rfl⟩
  | printSummary => exact absurd bad Bool.false_ne_true

theorem perform_of_not_isBad (good : request.isBad = false) :
    (relay.perform state request).1.isRefusal = false := by
  cases request with
  | report diagnostic =>
      have classified : diagnostic.IsClassified := by simpa [Request.isBad] using good
      obtain ⟨severity, known⟩ := Diagnostic.isClassified_iff.mp classified
      rw [perform_report_of_severity known]
      rfl
  | printSummary => rfl

/-- A relay whose policy keeps a record does the same, and puts down the one question that it asks
about a diagnostic with a severity. -/
theorem perform_recorded (relay : Relay σ) (state : State σ) (record : List (Diagnostic × Bool))
    (request : Request) :
    relay.recorded.perform (state.withRecord record) request =
      ((relay.perform state request).1,
        (relay.perform state request).2.withRecord (record ++ request.classified?.toList.map
          fun diagnostic => (diagnostic, (relay.policy.ask state.memory diagnostic).1))) := by
  cases request with
  | report diagnostic =>
      by_cases classified : diagnostic.IsClassified
      · obtain ⟨severity, known⟩ := Diagnostic.isClassified_iff.mp classified
        rw [perform_report_of_severity known, perform_report_of_severity known,
          Request.classified?_of_classified classified]
        rfl
      · rw [perform_report_of_not_classified classified,
          perform_report_of_not_classified classified,
          Request.classified?_of_not_classified classified]
        simp
  | printSummary => simp [perform, State.withRecord, Request.classified?]

/-! ## A run -/

theorem replies_filter (relay : Relay σ) (state : State σ) (requests : List Request) :
    relay.replies state (requests.filter (!·.isBad)) =
      (relay.replies state requests).filter (!·.isRefusal) := by
  induction requests generalizing state with
  | nil => rfl
  | cons request rest ih =>
      cases quality : request.isBad with
      | true =>
          have refused : (relay.perform state request).1.isRefusal = true :=
            (perform_of_isBad quality).1
          have unchanged : (relay.perform state request).2 = state := (perform_of_isBad quality).2
          rw [List.filter_cons_of_neg (by simp [quality]), replies,
            List.filter_cons_of_neg (by simp [refused]), unchanged, ih]
      | false =>
          have accepted : (relay.perform state request).1.isRefusal = false :=
            perform_of_not_isBad quality
          rw [List.filter_cons_of_pos (by simp [quality]), replies, replies,
            List.filter_cons_of_pos (by simp [accepted]), ih]

theorem afterRequests_filter (relay : Relay σ) (state : State σ) (requests : List Request) :
    relay.afterRequests state (requests.filter (!·.isBad)) =
      relay.afterRequests state requests := by
  induction requests generalizing state with
  | nil => rfl
  | cons request rest ih =>
      cases quality : request.isBad with
      | true =>
          rw [List.filter_cons_of_neg (by simp [quality]), ih, afterRequests_cons,
            (perform_of_isBad quality).2]
      | false =>
          rw [List.filter_cons_of_pos (by simp [quality]), afterRequests_cons, afterRequests_cons,
            ih]

theorem replies_recorded (relay : Relay σ) (state : State σ) (record : List (Diagnostic × Bool))
    (requests : List Request) :
    relay.recorded.replies (state.withRecord record) requests = relay.replies state requests := by
  induction requests generalizing state record with
  | nil => rfl
  | cons request rest ih => rw [replies, replies, perform_recorded, ih]

/-- The record of a run holds one question for each diagnostic with a severity, in order. -/
theorem record_afterRequests (relay : Relay σ) (state : State σ)
    (record : List (Diagnostic × Bool)) (requests : List Request) :
    (relay.recorded.afterRequests (state.withRecord record) requests).memory.2.map (·.1) =
      record.map (·.1) ++ requests.filterMap Request.classified? := by
  induction requests generalizing state record with
  | nil => simp [State.withRecord]
  | cons request rest ih =>
      rw [afterRequests_cons, perform_recorded, ih]
      cases asked : request.classified? with
      | none => simp [asked]
      | some diagnostic => simp [asked]

/-- The problem is the one that the diagnostic becomes, explained or not. -/
def BecomesProblem (rendering : Rendering) (diagnostic : Diagnostic) (problem : Problem) : Prop :=
  ∃ severity explained, diagnostic.code = severity.code ∧
    problem = .ofDiagnostic rendering diagnostic severity explained

/-- Each diagnostic with a severity becomes one problem, in order. -/
theorem forall₂_becomesProblem (relay : Relay σ) (state : State σ) (requests : List Request) :
    List.Forall₂ (BecomesProblem relay.rendering) (requests.filterMap Request.classified?)
      ((relay.replies state requests).filterMap Reply.problem?) := by
  induction requests generalizing state with
  | nil => exact .nil
  | cons request rest ih =>
      cases request with
      | report diagnostic =>
          by_cases classified : diagnostic.IsClassified
          · obtain ⟨severity, known⟩ := Diagnostic.isClassified_iff.mp classified
            rw [replies, perform_report_of_severity known,
              List.filterMap_cons_some (Request.classified?_of_classified classified)]
            exact .cons ⟨severity, _, Severity.ofCode?_eq_some_iff.mp known, rfl⟩ (ih _)
          · rw [replies, perform_report_of_not_classified classified,
              List.filterMap_cons_none (Request.classified?_of_not_classified classified)]
            exact ih _
      | printSummary => exact ih _

/-- Whatever the policy does, a diagnostic without a severity is refused by its code, changes
nothing and is no question to the policy, and one with a severity becomes one problem and one
question. So a run without the refused requests has the other replies, the questions and answers,
and the final state of the whole run; and its problems are those of the diagnostics with a severity,
in order. -/
theorem refusals_leave_no_trace (relay : Relay σ) (state : State σ) :
    (∀ diagnostic : Diagnostic, ¬diagnostic.IsClassified →
      relay.report state diagnostic = (.error ⟨diagnostic.code⟩, state) ∧
        relay.perform state (.report diagnostic) = (.refused ⟨diagnostic.code⟩, state) ∧
        (relay.recorded.perform (state.withRecord []) (.report diagnostic)).2.memory.2 = []) ∧
    (∀ diagnostic : Diagnostic, diagnostic.IsClassified →
      ∃ problem, BecomesProblem relay.rendering diagnostic problem ∧
        relay.perform state (.report diagnostic) =
          (.forwarded problem,
            ⟨(relay.policy.ask state.memory diagnostic).2, state.console.log problem⟩) ∧
        (relay.recorded.perform (state.withRecord []) (.report diagnostic)).2.memory.2 =
          [(diagnostic, (relay.policy.ask state.memory diagnostic).1)]) ∧
    ∀ requests : List Request,
      let accepted := requests.filter (!·.isBad)
      let record := fun requests =>
        (relay.recorded.afterRequests (state.withRecord []) requests).memory.2
      relay.replies state accepted = (relay.replies state requests).filter (!·.isRefusal) ∧
      relay.afterRequests state accepted = relay.afterRequests state requests ∧
      relay.recorded.replies (state.withRecord []) requests = relay.replies state requests ∧
      record accepted = record requests ∧
      (record requests).map (·.1) = requests.filterMap Request.classified? ∧
      List.Forall₂ (BecomesProblem relay.rendering) (requests.filterMap Request.classified?)
        ((relay.replies state requests).filterMap Reply.problem?) := by
  refine ⟨?_, ?_, ?_⟩
  · intro diagnostic unclassified
    refine ⟨report_of_no_severity (Diagnostic.not_isClassified_iff.mp unclassified),
      perform_report_of_not_classified unclassified, ?_⟩
    rw [perform_report_of_not_classified unclassified]
    rfl
  · intro diagnostic classified
    obtain ⟨severity, known⟩ := Diagnostic.isClassified_iff.mp classified
    have code := Severity.ofCode?_eq_some_iff.mp known
    refine ⟨_, ⟨severity, _, code, rfl⟩, perform_report_of_severity known, ?_⟩
    rw [perform_recorded, Request.classified?_of_classified classified]
    rfl
  · intro requests accepted record
    refine ⟨replies_filter relay state requests, afterRequests_filter relay state requests,
      replies_recorded relay state [] requests, ?_, record_afterRequests relay state [] requests,
      forall₂_becomesProblem relay state requests⟩
    change (relay.recorded.afterRequests _ (requests.filter _)).memory.2 = _
    rw [afterRequests_filter]

end Relay

end DiagnosticRelay
