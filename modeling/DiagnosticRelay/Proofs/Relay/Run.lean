import DiagnosticRelay.Relay
import Mathlib.Data.List.Basic

/-!
# Runs of a relay

What a single report does is said once, for a diagnostic with a severity and for one without. A
run reports diagnostics one after another and goes on after a refusal. The result of each report is
the one in the state that the reports before it left behind. A run without refusals prints what the
relay renders, and counts the diagnostics of each severity.
-/

namespace DiagnosticRelay

/-- Whether the code of a diagnostic stands for a severity. -/
def Diagnostic.IsClassified (diagnostic : Diagnostic) : Prop :=
  diagnostic.code = 0 ∨ diagnostic.code = 1 ∨ diagnostic.code = 2

instance (diagnostic : Diagnostic) : Decidable diagnostic.IsClassified :=
  inferInstanceAs (Decidable (_ ∨ _))

theorem Diagnostic.isClassified_iff {diagnostic : Diagnostic} :
    diagnostic.IsClassified ↔ ∃ severity, Severity.ofCode? diagnostic.code = some severity := by
  rw [IsClassified, ← Option.isSome_iff_exists, Severity.ofCode?]
  split_ifs <;> simp [*]

theorem Diagnostic.not_isClassified_iff {diagnostic : Diagnostic} :
    ¬diagnostic.IsClassified ↔ Severity.ofCode? diagnostic.code = none := by
  rw [isClassified_iff, Option.eq_none_iff_forall_ne_some, not_exists]

/-- The problem that a diagnostic becomes, with its explanation or without. -/
def Problem.ofDiagnostic (rendering : Rendering) (diagnostic : Diagnostic) (severity : Severity)
    (explained : Bool) : Problem :=
  let short := rendering.short diagnostic.message diagnostic.location severity.label
  { placement := .ofLocation diagnostic.location
    message := diagnostic.message.text
    severity
    rendered := if explained then short ++ rendering.explanation diagnostic.message else short }

namespace Relay

variable {σ : Type} {relay : Relay σ} {state : State σ} {diagnostic : Diagnostic}

/-- Whether the explanation of a diagnostic is shown. -/
def shows (relay : Relay σ) (memory : σ) (diagnostic : Diagnostic) : Bool :=
  (relay.policy.ask memory diagnostic).1 && diagnostic.message.hasExplanation

/-- The state after one report. -/
def next (relay : Relay σ) (state : State σ) (diagnostic : Diagnostic) : State σ :=
  (relay.report state diagnostic).2

/-- The state after reports. -/
def after (relay : Relay σ) (state : State σ) (diagnostics : List Diagnostic) : State σ :=
  diagnostics.foldl relay.next state

/-- What comes of reporting diagnostics one after another. A refusal does not end the run. -/
def reportEach (relay : Relay σ) (state : State σ) :
    List Diagnostic → List (Except BadCode Problem)
  | [] => []
  | diagnostic :: rest =>
    (relay.report state diagnostic).1 :: relay.reportEach (relay.next state diagnostic) rest

/-- The texts that diagnostics are put into, up to the first one without a severity. The policy is
asked about each of them in turn. -/
def renderAll (relay : Relay σ) (memory : σ) : List Diagnostic → List String
  | [] => []
  | diagnostic :: rest =>
    match Severity.ofCode? diagnostic.code with
    | none => []
    | some severity =>
      let (text, memory) := relay.render memory diagnostic severity
      text :: relay.renderAll memory rest

/-! ## One report -/

theorem render_eq (memory : σ) (severity : Severity) :
    relay.render memory diagnostic severity =
      ((Problem.ofDiagnostic relay.rendering diagnostic severity
        (relay.shows memory diagnostic)).rendered, (relay.policy.ask memory diagnostic).2) := by
  change (if relay.shows memory diagnostic then _ else _) = _
  cases shown : relay.shows memory diagnostic with
  | false => rfl
  | true => rfl

theorem report_of_severity {severity : Severity}
    (known : Severity.ofCode? diagnostic.code = some severity) :
    relay.report state diagnostic =
      let problem := Problem.ofDiagnostic relay.rendering diagnostic severity
        (relay.shows state.memory diagnostic)
      (.ok problem, ⟨(relay.policy.ask state.memory diagnostic).2, state.console.log problem⟩) := by
  simp only [report, Severity.classify, known, render_eq]
  rfl

theorem report_of_no_severity (unknown : Severity.ofCode? diagnostic.code = none) :
    relay.report state diagnostic = (.error ⟨diagnostic.code⟩, state) := by
  have refused : (relay.report state diagnostic).1 = .error ⟨diagnostic.code⟩ :=
    report_eq_error_iff.mpr ⟨unknown, rfl⟩
  exact Prod.ext refused (state_of_refusal refused)

theorem next_of_severity {severity : Severity}
    (known : Severity.ofCode? diagnostic.code = some severity) :
    relay.next state diagnostic =
      ⟨(relay.policy.ask state.memory diagnostic).2,
        state.console.log (Problem.ofDiagnostic relay.rendering diagnostic severity
          (relay.shows state.memory diagnostic))⟩ := by
  rw [next, report_of_severity known]

theorem next_of_no_severity (unknown : Severity.ofCode? diagnostic.code = none) :
    relay.next state diagnostic = state := by
  rw [next, report_of_no_severity unknown]

/-! ## A run -/

@[simp] theorem after_nil (relay : Relay σ) (state : State σ) : relay.after state [] = state := rfl

@[simp] theorem after_append (relay : Relay σ) (state : State σ) (first second : List Diagnostic) :
    relay.after state (first ++ second) = relay.after (relay.after state first) second :=
  List.foldl_append

@[simp] theorem after_singleton (relay : Relay σ) (state : State σ) (diagnostic : Diagnostic) :
    relay.after state [diagnostic] = relay.next state diagnostic := rfl

@[simp] theorem length_reportEach (relay : Relay σ) (state : State σ) (run : List Diagnostic) :
    (relay.reportEach state run).length = run.length := by
  induction run generalizing state with
  | nil => rfl
  | cons diagnostic rest ih => rw [reportEach, List.length_cons, ih, List.length_cons]

/-- Each report is made in the state that the earlier ones leave behind. -/
theorem getElem?_reportEach {run : List Diagnostic} {i : Nat} (h : run[i]? = some diagnostic) :
    (relay.reportEach state run)[i]? =
      some (relay.report (relay.after state (run.take i)) diagnostic).1 := by
  induction run generalizing state i with
  | nil => exact absurd h (by simp)
  | cons first rest ih =>
      cases i with
      | zero =>
          obtain rfl : first = diagnostic := Option.some.inj h
          rfl
      | succ i => exact ih h

/-! ## A run without refusals -/

theorem after_cons (relay : Relay σ) (state : State σ) (diagnostic : Diagnostic)
    (rest : List Diagnostic) :
    relay.after state (diagnostic :: rest) = relay.after (relay.next state diagnostic) rest := rfl

theorem renderAll_cons {severity : Severity} {memory : σ} {rest : List Diagnostic}
    (known : Severity.ofCode? diagnostic.code = some severity) :
    relay.renderAll memory (diagnostic :: rest) =
      (relay.render memory diagnostic severity).1 ::
        relay.renderAll (relay.render memory diagnostic severity).2 rest := by
  simp only [renderAll, known]

@[simp] theorem sink_next (relay : Relay σ) (state : State σ) (diagnostic : Diagnostic) :
    (relay.next state diagnostic).console.sink = state.console.sink := by
  cases known : Severity.ofCode? diagnostic.code with
  | none => rw [next_of_no_severity known]
  | some severity => rw [next_of_severity known, Console.sink_log]

@[simp] theorem sink_after (relay : Relay σ) (state : State σ) (run : List Diagnostic) :
    (relay.after state run).console.sink = state.console.sink := by
  induction run generalizing state with
  | nil => rfl
  | cons diagnostic rest ih => rw [after_cons, ih, sink_next]

/-- A run without refusals prints the rendered texts, each with a line feed. -/
theorem printed_after {run : List Diagnostic} (working : state.console.sink = .working)
    (classified : ∀ diagnostic ∈ run, diagnostic.IsClassified) :
    (relay.after state run).console.printed =
      state.console.printed ++
        String.join ((relay.renderAll state.memory run).map (· ++ "\n")) := by
  induction run generalizing state with
  | nil => simp [renderAll]
  | cons diagnostic rest ih =>
      obtain ⟨severity, known⟩ :=
        Diagnostic.isClassified_iff.mp (classified diagnostic List.mem_cons_self)
      have rest_classified : ∀ diagnostic ∈ rest, diagnostic.IsClassified := by
        intro diagnostic member
        exact classified diagnostic (List.mem_cons_of_mem _ member)
      have still_working : (relay.next state diagnostic).console.sink = .working := by
        rw [sink_next]
        exact working
      rw [after_cons, ih still_working rest_classified, renderAll_cons known,
        next_of_severity known, render_eq]
      simp only [Console.log, Console.printLine, working, List.map_cons, String.join_cons,
        String.append_assoc]

/-- A run counts the diagnostics that have a severity under this severity. -/
theorem count_after (relay : Relay σ) (state : State σ) (run : List Diagnostic)
    (severity : Severity) :
    (relay.after state run).console.tally.count severity =
      state.console.tally.count severity +
        run.countP fun diagnostic => diagnostic.code = severity.code := by
  induction run generalizing state with
  | nil => rfl
  | cons diagnostic rest ih =>
      rw [after_cons, ih, List.countP_cons, Nat.add_comm (rest.countP _), ← Nat.add_assoc]
      congr 1
      cases known : Severity.ofCode? diagnostic.code with
      | none =>
          have other : diagnostic.code ≠ severity.code := by
            intro same
            rw [same, Severity.ofCode?_code] at known
            exact Option.some_ne_none _ known
          simp [next_of_no_severity known, other]
      | some actual =>
          rw [next_of_severity known, Console.tally_log, Tally.count_add,
            Severity.ofCode?_eq_some_iff.mp known]
          by_cases same : actual = severity
          · simp [Problem.ofDiagnostic, same]
          · simp [Problem.ofDiagnostic, same]

/-! ## A run that ends at a refusal -/

/-- The first diagnostic without a severity ends the run and is named by the refusal. Those before
it are reported. -/
theorem reportAll_eq (relay : Relay σ) (state : State σ) (run : List Diagnostic) :
    (relay.reportAll state run).state = relay.after state (run.takeWhile (·.IsClassified)) ∧
      (relay.reportAll state run).refusal? =
        (run.find? fun diagnostic => ¬diagnostic.IsClassified).map (⟨·.code⟩) := by
  induction run generalizing state with
  | nil => exact ⟨rfl, rfl⟩
  | cons diagnostic rest ih =>
      cases known : Severity.ofCode? diagnostic.code with
      | none =>
          have refused := Diagnostic.not_isClassified_iff.mpr known
          simp [reportAll, report_of_no_severity known, refused]
      | some severity =>
          have accepted := Diagnostic.isClassified_iff.mpr ⟨severity, known⟩
          have step : relay.next state diagnostic = _ := next_of_severity known
          simp only [reportAll, report_of_severity known]
          rw [← step]
          obtain ⟨states, refusals⟩ := ih (relay.next state diagnostic)
          rw [states, refusals, List.takeWhile_cons_of_pos (by simpa using accepted),
            List.find?_cons_of_neg (by simpa using accepted)]
          exact ⟨rfl, rfl⟩

theorem length_problems_reportAll {run : List Diagnostic}
    (classified : ∀ diagnostic ∈ run, diagnostic.IsClassified) :
    (relay.reportAll state run).problems.length = run.length := by
  induction run generalizing state with
  | nil => rfl
  | cons diagnostic rest ih =>
      obtain ⟨⟨severity, known⟩, rest_classified⟩ :=
        (List.forall_mem_cons.mp classified).imp_left Diagnostic.isClassified_iff.mp
      simp only [reportAll, report_of_severity known, List.length_cons, ih rest_classified]

/-- The problem of a diagnostic is made in the state that the earlier ones leave behind. -/
theorem getElem?_problems_reportAll {run : List Diagnostic} {i : Nat} {severity : Severity}
    (classified : ∀ diagnostic ∈ run, diagnostic.IsClassified) (h : run[i]? = some diagnostic)
    (known : Severity.ofCode? diagnostic.code = some severity) :
    (relay.reportAll state run).problems[i]? =
      some (Problem.ofDiagnostic relay.rendering diagnostic severity
        (relay.shows (relay.after state (run.take i)).memory diagnostic)) := by
  induction run generalizing state i with
  | nil => exact absurd h (by simp)
  | cons first rest ih =>
      obtain ⟨⟨severity', known'⟩, rest_classified⟩ :=
        (List.forall_mem_cons.mp classified).imp_left Diagnostic.isClassified_iff.mp
      have step : relay.next state first = _ := next_of_severity known'
      cases i with
      | zero =>
          obtain rfl : first = diagnostic := Option.some.inj h
          simp [reportAll, report_of_severity known]
      | succ i =>
          simp only [reportAll, report_of_severity known', List.getElem?_cons_succ]
          rw [← step, ih rest_classified h, List.take_succ_cons, after_cons]

/-! ## Two runs -/

/-- Two relays, which may render in different ways, put two diagnostics into the same words and
remember the same of them. -/
def Alike (relay relay' : Relay σ) (diagnostic diagnostic' : Diagnostic) : Prop :=
  diagnostic'.code = diagnostic.code ∧ ∀ memory severity,
    relay'.render memory diagnostic' severity = relay.render memory diagnostic severity

/-- A console sees of a problem its severity and its text. -/
theorem log_congr (console : Console) {problem problem' : Problem}
    (severity : problem'.severity = problem.severity)
    (rendered : problem'.rendered = problem.rendered) :
    console.log problem' = console.log problem := by
  rw [Console.log, severity, rendered, Console.log]

/-- Runs of diagnostics that are alike one by one print the same texts, end at the same refusal and
leave the same state behind. -/
theorem reportAll_of_alike {relay' : Relay σ} {run run' : List Diagnostic}
    (alike : List.Forall₂ (Alike relay relay') run run') (state : State σ) :
    (relay'.reportAll state run').state = (relay.reportAll state run).state ∧
      (relay'.reportAll state run').refusal? = (relay.reportAll state run).refusal? ∧
      (relay'.reportAll state run').problems.map (·.rendered) =
        (relay.reportAll state run).problems.map (·.rendered) := by
  induction alike generalizing state with
  | nil => exact ⟨rfl, rfl, rfl⟩
  | @cons diagnostic diagnostic' rest rest' head tail ih =>
      obtain ⟨code, render⟩ := head
      cases known : Severity.ofCode? diagnostic.code with
      | none =>
          have known' : Severity.ofCode? diagnostic'.code = none := code ▸ known
          simp [reportAll, report_of_no_severity known, report_of_no_severity known', code]
      | some severity =>
          have known' : Severity.ofCode? diagnostic'.code = some severity := code ▸ known
          have same := render state.memory severity
          rw [render_eq, render_eq] at same
          obtain ⟨text, memory⟩ := Prod.mk.inj same
          have logged := log_congr state.console (by rfl) text
          simp only [reportAll, report_of_severity known, report_of_severity known', memory, logged]
          obtain ⟨states, refusals, texts⟩ := ih _
          exact ⟨states, refusals, congrArg₂ List.cons text texts⟩

end Relay

end DiagnosticRelay
