import DiagnosticRelay.Console
import Mathlib.Data.List.Basic

/-!
# Runs of a console

A console is asked to log problems and to print summaries, in any order, and at each call its sink
may work or fail. A problem is counted before it is printed, so what is counted and what a summary
says depend on the problems alone; what has been printed is the texts of those calls that met a
working sink, one after another.
-/

namespace DiagnosticRelay

/-! ## The summary -/

theorem Tally.ext_count {tally tally' : Tally}
    (same : ∀ severity, tally.count severity = tally'.count severity) : tally = tally' := by
  cases tally
  cases tally'
  congr 1
  · exact same .error
  · exact same .warning
  · exact same .info

/-- The line that says how many things were found, unless there are none. -/
def countLine (n : Nat) (noun : String) : String :=
  if n = 0 then ""
  else if n = 1 then s!"1 {noun} found\n"
  else s!"{n} {noun}s found\n"

@[simp] theorem countLine_zero (noun : String) : countLine 0 noun = "" := rfl

@[simp] theorem Tally.found_zero (noun : String) : Tally.found 0 noun = [] := rfl

theorem Tally.found_of_pos {n : Nat} (pos : 0 < n) (noun : String) :
    ∃ line, found n noun = [line] ∧ countLine n noun = line ++ "\n" ∧ line ≠ "" := by
  have nonzero : n ≠ 0 := by omega
  by_cases one : n = 1
  · refine ⟨s!"1 {noun} found", ?_, ?_, ?_⟩
    · simp [found, one]
    · simp [countLine, one, toString, String.append_assoc]
    · simp [toString]
  · refine ⟨s!"{n} {noun}s found", ?_, ?_, ?_⟩
    · simp [found, nonzero, one]
    · simp [countLine, nonzero, one, toString, String.append_assoc]
    · simp [toString]

/-- A summary says nothing of nothing; otherwise it has a line for the warnings, one for the errors,
or both. -/
theorem Tally.summary_cases (tally : Tally) :
    (tally.warnings = 0 ∧ tally.errors = 0 ∧ tally.summary = "") ∨
      ((tally.warnings ≠ 0 ∨ tally.errors ≠ 0) ∧ tally.summary ≠ "" ∧
        tally.summary ++ "\n" =
          countLine tally.warnings "warning" ++ countLine tally.errors "error") := by
  rw [summary]
  rcases Nat.eq_zero_or_pos tally.warnings with no_warnings | warnings
  · rcases Nat.eq_zero_or_pos tally.errors with no_errors | errors
    · left
      simp [no_warnings, no_errors]
    · obtain ⟨line, found, line_feed, nonempty⟩ := found_of_pos errors "error"
      right
      refine ⟨.inr (Nat.pos_iff_ne_zero.mp errors), ?_, ?_⟩
      · simp [no_warnings, found, nonempty]
      · simp [no_warnings, found, line_feed]
  · obtain ⟨line, found, line_feed, nonempty⟩ := found_of_pos warnings "warning"
    right
    refine ⟨.inl (Nat.pos_iff_ne_zero.mp warnings), ?_⟩
    rcases Nat.eq_zero_or_pos tally.errors with no_errors | errors
    · refine ⟨?_, ?_⟩
      · simp [no_errors, found, nonempty]
      · simp [no_errors, found, line_feed]
    · obtain ⟨line', found', line_feed', -⟩ := found_of_pos errors "error"
      refine ⟨?_, ?_⟩
      · simp [found, found', nonempty]
      · simp [found, found', line_feed, line_feed', String.append_assoc]

theorem Tally.summary_eq_empty_iff (tally : Tally) :
    tally.summary = "" ↔ tally.warnings = 0 ∧ tally.errors = 0 := by
  rcases tally.summary_cases with ⟨no_warnings, no_errors, empty⟩ | ⟨present, nonempty, -⟩
  · simp [no_warnings, no_errors, empty]
  · refine iff_of_false nonempty ?_
    rintro ⟨no_warnings, no_errors⟩
    exact present.elim (· no_warnings) (· no_errors)

namespace Console

theorem printed_printLine {console : Console} (working : console.sink = .working) (text : String) :
    (console.printLine text).printed = console.printed ++ (text ++ "\n") := by
  simp [printLine, working, String.append_assoc]

/-- The summary is the line for the warnings and the line for the errors. -/
theorem printed_printSummary {console : Console} (working : console.sink = .working) :
    console.printSummary.printed = console.printed ++
      (countLine console.tally.warnings "warning" ++ countLine console.tally.errors "error") := by
  rcases console.tally.summary_cases with
    ⟨no_warnings, no_errors, empty⟩ | ⟨-, nonempty, line_feed⟩
  · simp [printSummary, summary, empty, no_warnings, no_errors]
  · rw [printSummary, if_neg (by simpa [summary] using nonempty), printed_printLine working,
      summary, line_feed]

/-! ## Calls -/

/-- What a console is asked to do. -/
inductive Call where
  | log (problem : Problem)
  | printSummary
deriving DecidableEq, Repr

/-- The problems that calls log, in order. -/
def logged (calls : List Call) : List Problem :=
  calls.filterMap fun
    | .log problem => some problem
    | .printSummary => none

/-- What a summary of problems prints: a line for the warnings and a line for the errors. -/
def summaryText (problems : List Problem) : String :=
  countLine (problems.countP (·.severity = .warning)) "warning" ++
    countLine (problems.countP (·.severity = .error)) "error"

/-- What a call prints when its sink works. A summary is one of the problems logged before it. -/
def Call.text (before : List Call) : Call → String
  | log problem => problem.rendered ++ "\n"
  | printSummary => summaryText (logged before)

/-- Carry out a call. -/
def perform (console : Console) : Call → Console
  | .log problem => console.log problem
  | .printSummary => console.printSummary

/-- Carry out calls in order, each with the sink that it meets. -/
def performAll (console : Console) (steps : List (Sink × Call)) : Console :=
  steps.foldl (fun console step => { console with sink := step.1 }.perform step.2) console

/-- What a call prints through the sink that it meets. -/
def textThrough (before : List Call) : Sink × Call → String
  | (.working, call) => call.text before
  | (.failing, _) => ""

/-- The console has counted these problems. -/
def Counts (console : Console) (problems : List Problem) : Prop :=
  ∀ severity, console.tally.count severity = problems.countP (·.severity = severity)

/-! ## One call -/

variable {console : Console} {before : List Call}

theorem logged_append (first second : List Call) :
    logged (first ++ second) = logged first ++ logged second :=
  List.filterMap_append

/-- A call counts the problem that it logs, and nothing else, whatever becomes of its text. -/
theorem Counts.perform (counts : console.Counts (logged before)) (step : Sink × Call) :
    ({ console with sink := step.1 }.perform step.2).Counts (logged (before ++ [step.2])) := by
  intro severity
  rw [logged_append, List.countP_append, ← counts severity]
  cases call : step.2 with
  | log problem =>
      rw [Console.perform, tally_log, Tally.count_add]
      simp [logged, List.countP_cons]
  | printSummary => simp [Console.perform, logged]

theorem Counts.printed_printSummary {problems : List Problem} (counts : console.Counts problems)
    (working : console.sink = .working) :
    console.printSummary.printed = console.printed ++ summaryText problems := by
  have warnings : console.tally.warnings = _ := counts .warning
  have errors : console.tally.errors = _ := counts .error
  rw [Console.printed_printSummary working, warnings, errors, summaryText]

/-- A call adds to what has been printed, provided that its sink works. -/
theorem printed_perform (counts : console.Counts (logged before)) (step : Sink × Call) :
    ({ console with sink := step.1 }.perform step.2).printed =
      console.printed ++ textThrough before step := by
  obtain ⟨sink, call⟩ := step
  cases sink with
  | working =>
      cases call with
      | log problem => exact printed_printLine rfl problem.rendered
      | printSummary =>
          have counts' : Counts { console with sink := .working } (logged before) := counts
          exact counts'.printed_printSummary rfl
  | failing =>
      rw [textThrough, String.append_empty]
      cases call with
      | log problem => rfl
      | printSummary =>
          rw [Console.perform, printSummary]
          split <;> rfl

/-! ## A run -/

@[simp] theorem performAll_nil (console : Console) : console.performAll [] = console := rfl

@[simp] theorem performAll_cons (console : Console) (step : Sink × Call)
    (rest : List (Sink × Call)) :
    console.performAll (step :: rest) =
      ({ console with sink := step.1 }.perform step.2).performAll rest := rfl

/-- A run counts the problems that it logs. -/
theorem Counts.performAll (counts : console.Counts (logged before)) (steps : List (Sink × Call)) :
    (console.performAll steps).Counts (logged (before ++ steps.map (·.2))) := by
  induction steps generalizing console before with
  | nil => simpa using counts
  | cons step rest ih =>
      have later := ih (counts.perform step)
      rwa [List.append_assoc, List.singleton_append, ← List.map_cons] at later

/-- A run prints, for each call whose sink works, the text of the call after the earlier ones. -/
theorem printed_performAll (counts : console.Counts (logged before))
    (steps : List (Sink × Call)) :
    (console.performAll steps).printed = console.printed ++ String.join
      (steps.mapIdx fun i step => textThrough (before ++ (steps.take i).map (·.2)) step) := by
  induction steps generalizing console before with
  | nil => simp
  | cons step rest ih =>
      rw [performAll_cons, ih (counts.perform step), printed_perform counts, List.mapIdx_cons,
        String.join_cons, String.append_assoc]
      simp

theorem counts_empty : Counts {} (logged []) := by
  intro severity
  cases severity <;> rfl

theorem Counts.tally_eq {console console' : Console} {problems : List Problem}
    (counts : console.Counts problems) (counts' : console'.Counts problems) :
    console.tally = console'.tally :=
  Tally.ext_count fun severity => (counts severity).trans (counts' severity).symm

/-- A summary is about the warnings and errors; infos are counted but not mentioned. -/
theorem Counts.summary_eq_empty_iff {problems : List Problem} (counts : console.Counts problems) :
    console.summary = "" ↔ ∀ problem ∈ problems, problem.severity = .info := by
  have warnings : console.tally.warnings = _ := counts .warning
  have errors : console.tally.errors = _ := counts .error
  rw [summary, Tally.summary_eq_empty_iff, warnings, errors, List.countP_eq_zero,
    List.countP_eq_zero]
  constructor
  · rintro ⟨no_warning, no_error⟩ problem member
    cases severity : problem.severity with
    | info => rfl
    | warning => exact absurd (by simpa using severity) (no_warning problem member)
    | error => exact absurd (by simpa using severity) (no_error problem member)
  · intro info
    refine ⟨?_, ?_⟩
    · intro problem member
      simp [info problem member]
    · intro problem member
      simp [info problem member]

theorem Counts.summary_append_line_feed {problems : List Problem}
    (counts : console.Counts problems) (nonempty : console.summary ≠ "") :
    console.summary ++ "\n" = summaryText problems := by
  have warnings : console.tally.warnings = _ := counts .warning
  have errors : console.tally.errors = _ := counts .error
  rcases console.tally.summary_cases with ⟨-, -, empty⟩ | ⟨-, -, line_feed⟩
  · exact absurd empty nonempty
  · rw [summary, line_feed, warnings, errors, summaryText]

/-- Summaries say the same again and again. -/
theorem Counts.performAll_summaries {problems : List Problem} (counts : console.Counts problems)
    (n : Nat) :
    let again := console.performAll (List.replicate n (.working, .printSummary))
    again.tally = console.tally ∧
      again.printed = console.printed ++ String.join (List.replicate n (summaryText problems)) := by
  induction n generalizing console with
  | zero => simp
  | succ n ih =>
      have counts' : Counts { console with sink := .working } problems := counts
      have printed := counts'.printed_printSummary rfl
      have tally := tally_printSummary { console with sink := .working }
      have counted : (printSummary { console with sink := .working }).Counts problems := by
        intro severity
        rw [tally]
        exact counts severity
      obtain ⟨tallies, texts⟩ := ih counted
      refine ⟨tallies.trans tally, ?_⟩
      rw [List.replicate_succ, performAll_cons, List.replicate_succ, String.join_cons,
        ← String.append_assoc, ← printed]
      exact texts

/-- A run of a console whose sink works counts the problems of each severity and prints, in the
order of the calls, each problem and each summary of the problems before it. Summaries change no
counter and repeat themselves. Whichever calls meet a failing sink, everything is counted and
summarised as before, and only the texts of these calls are missing. -/
theorem performAll_counts_and_prints (calls : List Call) :
    let console := performAll {} (calls.map (.working, ·))
    let problems := logged calls
    (∀ severity, console.tally.count severity = problems.countP (·.severity = severity)) ∧
    console.printed = String.join (calls.mapIdx fun i call => call.text (calls.take i)) ∧
    (console.summary = "" ↔ ∀ problem ∈ problems, problem.severity = .info) ∧
    (console.summary ≠ "" → console.summary ++ "\n" = summaryText problems) ∧
    (∀ n, let again := console.performAll (List.replicate n (.working, .printSummary))
      again.tally = console.tally ∧
        again.printed = console.printed ++ String.join (List.replicate n (summaryText problems))) ∧
    ∀ steps : List (Sink × Call), steps.map (·.2) = calls →
      (performAll {} steps).tally = console.tally ∧
        (performAll {} steps).summary = console.summary ∧
        (performAll {} steps).printed =
          String.join (steps.mapIdx fun i step => textThrough (calls.take i) step) := by
  intro console problems
  have start : Counts {} (logged []) := counts_empty
  have whole : ∀ steps : List (Sink × Call), steps.map (·.2) = calls →
      (performAll {} steps).Counts problems := by
    rintro steps rfl
    exact start.performAll steps
  have working : (calls.map (Sink.working, ·)).map (·.2) = calls := by simp [Function.comp_def]
  have counts : console.Counts problems := whole _ working
  refine ⟨counts, ?_, counts.summary_eq_empty_iff, counts.summary_append_line_feed,
    counts.performAll_summaries, ?_⟩
  · change (performAll {} _).printed = _
    rw [printed_performAll start, String.empty_append]
    congr 1
    apply List.ext_getElem?
    intro i
    simp [Function.comp_def, textThrough]
  · intro steps same
    have tallies := (whole steps same).tally_eq counts
    refine ⟨tallies, congrArg Tally.summary tallies, ?_⟩
    rw [printed_performAll start, ← same]
    simp

end Console

end DiagnosticRelay
