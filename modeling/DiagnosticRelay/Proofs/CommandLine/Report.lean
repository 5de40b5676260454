import DiagnosticRelay.CommandLine.Run
import DiagnosticRelay.Proofs.Console.Run
import DiagnosticRelay.Proofs.Relay.Run
import Mathlib.Data.List.TakeWhile

/-!
# What a report prints

A report prints nothing unless its settings, its source and its replay can be loaded. If they can,
it prints the transcript of the diagnostics: the rendered texts up to the first code without a
severity, and the summary if there is none.
-/

namespace DiagnosticRelay

namespace CommandLine

/-! ## The transcript -/

/-- The summary of diagnostics: a line for the warnings and a line for the errors. -/
def summaryLines (diagnostics : List Diagnostic) : String :=
  countLine (diagnostics.countP (·.code = 1)) "warning" ++
    countLine (diagnostics.countP (·.code = 2)) "error"

/-- The relay of settings. -/
def relayOf (settings : Settings) : Relay settings.rule.Memory :=
  ⟨settings.rendering, settings.rule.policy⟩

/-- The text that a report of diagnostics prints: what the relay of the settings renders, each text
with a line feed, up to the first diagnostic without a severity, and the summary if all have one. -/
def transcript (settings : Settings) (diagnostics : List Diagnostic) : String :=
  let reported := diagnostics.takeWhile (·.IsClassified)
  let texts := (relayOf settings).renderAll (relayOf settings).policy.start reported
  String.join (texts.map (· ++ "\n")) ++
    if ∀ diagnostic ∈ diagnostics, diagnostic.IsClassified then summaryLines diagnostics else ""

section Report

variable (settings : Settings) (diagnostics : List Diagnostic)

/-- What the relay of a report makes of the diagnostics. -/
def relayed : Relay.Outcome settings.rule.Memory :=
  (relayOf settings).reportAll ((relayOf settings).start {}) diagnostics

theorem report_eq :
    report settings diagnostics =
      match (relayed settings diagnostics).refusal? with
      | some bad =>
        { printed := (relayed settings diagnostics).state.console.printed
          failure? := some (.refused bad) }
      | none =>
        { printed := (relayed settings diagnostics).state.console.printSummary.printed
          foundErrors := (relayed settings diagnostics).state.console.tally.errors != 0 } := rfl

theorem printed_relayed :
    (relayed settings diagnostics).state.console.printed =
      String.join (((relayOf settings).renderAll (relayOf settings).policy.start
        (diagnostics.takeWhile (·.IsClassified))).map (· ++ "\n")) := by
  have classified : ∀ diagnostic ∈ diagnostics.takeWhile (·.IsClassified),
      diagnostic.IsClassified := by
    intro diagnostic member
    simpa using List.mem_takeWhile_imp member
  have working : ((relayOf settings).start {}).console.sink = .working := rfl
  rw [relayed, (Relay.reportAll_eq ..).1, Relay.printed_after working classified]
  exact String.empty_append

variable {diagnostics}

theorem state_relayed (classified : ∀ diagnostic ∈ diagnostics, diagnostic.IsClassified) :
    (relayed settings diagnostics).state =
      (relayOf settings).after ((relayOf settings).start {}) diagnostics := by
  have all : diagnostics.takeWhile (·.IsClassified) = diagnostics := by
    rw [List.takeWhile_eq_self_iff]
    simpa using classified
  rw [relayed, (Relay.reportAll_eq ..).1, all]

theorem count_relayed (classified : ∀ diagnostic ∈ diagnostics, diagnostic.IsClassified)
    (severity : Severity) :
    (relayed settings diagnostics).state.console.tally.count severity =
      diagnostics.countP (·.code = severity.code) := by
  have empty : ((relayOf settings).start {}).console.tally.count severity = 0 := by
    cases severity <;> rfl
  rw [state_relayed settings classified, Relay.count_after, empty, Nat.zero_add]

/-- If all diagnostics have a severity, the whole transcript is printed. -/
theorem report_of_classified
    (classified : ∀ diagnostic ∈ diagnostics, diagnostic.IsClassified) :
    report settings diagnostics =
      { printed := transcript settings diagnostics
        foundErrors := diagnostics.countP (·.code = 2) != 0 } := by
  have accepted : (relayed settings diagnostics).refusal? = none := by
    rw [relayed, (Relay.reportAll_eq ..).2, List.find?_eq_none.mpr (by simpa using classified)]
    rfl
  have working : (relayed settings diagnostics).state.console.sink = .working := by
    rw [state_relayed settings classified, Relay.sink_after]
    rfl
  have warnings : (relayed settings diagnostics).state.console.tally.warnings =
      diagnostics.countP (·.code = 1) :=
    count_relayed settings classified .warning
  have errors : (relayed settings diagnostics).state.console.tally.errors =
      diagnostics.countP (·.code = 2) :=
    count_relayed settings classified .error
  rw [report_eq, accepted]
  simp only
  rw [Console.printed_printSummary working, warnings, errors, printed_relayed, transcript,
    if_pos classified, summaryLines]

/-- A diagnostic without a severity ends the report with a failure. -/
theorem report_of_not_classified
    (unclassified : ¬∀ diagnostic ∈ diagnostics, diagnostic.IsClassified) :
    ∃ bad, report settings diagnostics =
      { printed := transcript settings diagnostics, failure? := some (.refused bad) } := by
  have found : (diagnostics.find? fun diagnostic => ¬diagnostic.IsClassified).isSome := by
    rw [List.find?_isSome]
    simpa using unclassified
  obtain ⟨diagnostic, found⟩ := Option.isSome_iff_exists.mp found
  have refused : (relayed settings diagnostics).refusal? = some ⟨diagnostic.code⟩ := by
    rw [relayed, (Relay.reportAll_eq ..).2, found]
    rfl
  refine ⟨⟨diagnostic.code⟩, ?_⟩
  rw [report_eq, refused]
  simp only
  rw [printed_relayed, transcript, if_neg unclassified, String.append_empty]

theorem printed_report (diagnostics : List Diagnostic) :
    (report settings diagnostics).printed = transcript settings diagnostics := by
  by_cases classified : ∀ diagnostic ∈ diagnostics, diagnostic.IsClassified
  · rw [report_of_classified settings classified]
  · obtain ⟨bad, refused⟩ := report_of_not_classified settings classified
    rw [refused]

theorem countP_errors_eq_zero_iff
    (classified : ∀ diagnostic ∈ diagnostics, diagnostic.IsClassified) :
    diagnostics.countP (·.code = 2) = 0 ↔
      ∀ diagnostic ∈ diagnostics, diagnostic.code = 0 ∨ diagnostic.code = 1 := by
  rw [List.countP_eq_zero]
  constructor
  · intro no_error diagnostic member
    rcases classified diagnostic member with info | warning | error
    · exact .inl info
    · exact .inr warning
    · exact absurd (by simpa using error) (no_error diagnostic member)
  · intro harmless diagnostic member
    rcases harmless diagnostic member with info | warning
    · simp [info]
    · simp [warning]

/-- A report succeeds exactly if no diagnostic is an error or has no severity. -/
theorem exitCode_report (diagnostics : List Diagnostic) :
    (report settings diagnostics).exitCode =
      if ∀ diagnostic ∈ diagnostics, diagnostic.code = 0 ∨ diagnostic.code = 1 then 0 else 1 := by
  by_cases classified : ∀ diagnostic ∈ diagnostics, diagnostic.IsClassified
  · rw [report_of_classified settings classified]
    by_cases errors : diagnostics.countP (·.code = 2) = 0
    · rw [if_pos ((countP_errors_eq_zero_iff classified).mp errors)]
      simp [Outcome.exitCode, errors]
    · have harmful := mt (countP_errors_eq_zero_iff classified).mpr errors
      rw [if_neg harmful]
      simp [Outcome.exitCode, errors]
  · obtain ⟨bad, refused⟩ := report_of_not_classified settings classified
    have harmful : ¬∀ diagnostic ∈ diagnostics, diagnostic.code = 0 ∨ diagnostic.code = 1 := by
      intro harmless
      apply classified
      intro diagnostic member
      exact (harmless diagnostic member).imp_right .inl
    rw [refused, if_neg harmful]
    rfl

end Report

/-! ## What a report loads -/

/-- What the options of a report add to its settings. -/
def ReportOptions.merge (options : ReportOptions) (settings : Settings) : Settings where
  explain :=
    { settings.explain with
      enabled := settings.explain.enabled || options.explain || options.explainOnce
      once := settings.explain.once || options.explainOnce }
  render := { showSource := settings.render.showSource && !options.noSource }

/-- Where the source of a report comes from. -/
def ReportOptions.origin (options : ReportOptions) : Origin :=
  if options.unresolved then .unresolved else .disk

/-- The settings of a report before its options are added: those of a file, or the default ones. -/
def LoadsSettings (files : Files) (options : ReportOptions) (settings : Settings) : Prop :=
  match options.settings? with
  | some path => Settings.load (files path) = .ok settings
  | none => settings = {}

/-- What a report loads: its settings, the text of its source, and the diagnostics of its replay
against this source. -/
structure Loads (files : Files) (options : ReportOptions) (settings : Settings) (content : String)
    (diagnostics : List Diagnostic) : Prop where
  settings : LoadsSettings files options settings
  source : (files options.source).bind String.fromUTF8? = some content
  replay : Replay.load (SourceText.source ⟨options.source, options.origin, content⟩)
    (files options.replay) = .ok diagnostics

section Loading

variable {files : Files} {options : ReportOptions} {settings : Settings} {content : String}
  {diagnostics : List Diagnostic}

theorem LoadsSettings.reportSettings_eq (loads : LoadsSettings files options settings) :
    reportSettings files options = .ok (options.merge settings) := by
  rw [LoadsSettings] at loads
  cases file : options.settings? with
  | none =>
      simp only [file] at loads
      simp only [reportSettings, file, loads]
      rfl
  | some path =>
      simp only [file] at loads
      simp only [reportSettings, file, loads]
      rfl

theorem loadsSettings_or_fails (files : Files) (options : ReportOptions) :
    (∃ settings, LoadsSettings files options settings) ∨
      ∃ failure, reportSettings files options = .error (.settings failure) := by
  cases file : options.settings? with
  | none =>
      left
      refine ⟨{}, ?_⟩
      rw [LoadsSettings, file]
  | some path =>
      cases loaded : Settings.load (files path) with
      | ok settings =>
          left
          refine ⟨settings, ?_⟩
          rw [LoadsSettings, file]
          exact loaded
      | error failure =>
          right
          refine ⟨failure, ?_⟩
          simp only [reportSettings, file, loaded]
          rfl

theorem LoadsSettings.loadReport_eq (loads : LoadsSettings files options settings)
    (source : (files options.source).bind String.fromUTF8? = some content) :
    loadReport files options =
      match Replay.load (SourceText.source ⟨options.source, options.origin, content⟩)
        (files options.replay) with
      | .ok diagnostics => .ok (options.merge settings, diagnostics)
      | .error failure => .error (.replay failure) := by
  have bound : loadReport files options =
      (Replay.load (SourceText.source ⟨options.source, options.origin, content⟩)
        (files options.replay)).mapError Failure.replay >>= fun diagnostics =>
          pure (options.merge settings, diagnostics) := by
    simp only [loadReport, loads.reportSettings_eq, loadSource, source]
    rfl
  rw [bound]
  cases Replay.load (SourceText.source ⟨options.source, options.origin, content⟩)
      (files options.replay) with
  | ok diagnostics => rfl
  | error failure => rfl

/-- A report that cannot load everything ends with a failure other than a mistake in the
arguments. -/
theorem loads_or_fails (files : Files) (options : ReportOptions) :
    (∃ settings content diagnostics, Loads files options settings content diagnostics) ∨
      ∃ failure, loadReport files options = .error failure ∧
        (Outcome.failed failure).exitCode = 1 := by
  rcases loadsSettings_or_fails files options with ⟨settings, loaded⟩ | ⟨failure, failed⟩
  · cases source : (files options.source).bind String.fromUTF8? with
    | none =>
        right
        refine ⟨.source options.source, ?_, rfl⟩
        simp only [loadReport, loaded.reportSettings_eq, loadSource, source]
        rfl
    | some content =>
        cases replay : Replay.load (SourceText.source ⟨options.source, options.origin, content⟩)
            (files options.replay) with
        | ok diagnostics =>
            left
            exact ⟨settings, content, diagnostics, loaded, source, replay⟩
        | error failure =>
            right
            refine ⟨.replay failure, ?_, rfl⟩
            rw [loaded.loadReport_eq source, replay]
  · right
    refine ⟨.settings failure, ?_, rfl⟩
    simp only [loadReport, failed]
    rfl

end Loading

/-- A report prints nothing and fails unless its settings, its source and its replay can be loaded.
If they can, it prints the transcript of the diagnostics, and it succeeds exactly if all of them
are infos and warnings. -/
theorem run_report {files : Files} {arguments : List String} {options : ReportOptions}
    (parsed : Command.parse arguments = .ok (.report options)) :
    (∀ settings content diagnostics, Loads files options settings content diagnostics →
      (run files arguments).printed = transcript (options.merge settings) diagnostics) ∧
    ((¬∃ settings content diagnostics, Loads files options settings content diagnostics) →
      (run files arguments).printed = "" ∧ (run files arguments).exitCode = 1) ∧
    ((run files arguments).exitCode = 0 ↔
      ∃ settings content diagnostics, Loads files options settings content diagnostics ∧
        ∀ diagnostic ∈ diagnostics, diagnostic.code = 0 ∨ diagnostic.code = 1) ∧
    ((run files arguments).exitCode = 0 ∨ (run files arguments).exitCode = 1) := by
  have ran : run files arguments = (Command.report options).run files := by
    rw [run, parsed]
  have reported : ∀ settings content diagnostics,
      Loads files options settings content diagnostics →
        run files arguments = report (options.merge settings) diagnostics := by
    intro settings content diagnostics loads
    rw [ran, Command.run, loads.settings.loadReport_eq loads.source, loads.replay]
  refine ⟨?_, ?_, ?_, ?_⟩
  · intro settings content diagnostics loads
    rw [reported settings content diagnostics loads, printed_report]
  · intro nothing
    obtain ⟨failure, failed, exit⟩ := (loads_or_fails files options).resolve_left nothing
    rw [ran, Command.run, failed]
    exact ⟨rfl, exit⟩
  · constructor
    · intro success
      rcases loads_or_fails files options with
        ⟨settings, content, diagnostics, loads⟩ | ⟨failure, failed, exit⟩
      · refine ⟨settings, content, diagnostics, loads, ?_⟩
        rw [reported settings content diagnostics loads, exitCode_report] at success
        by_contra harmful
        rw [if_neg harmful] at success
        exact Nat.one_ne_zero success
      · rw [ran, Command.run, failed, exit] at success
        exact absurd success Nat.one_ne_zero
    · rintro ⟨settings, content, diagnostics, loads, harmless⟩
      rw [reported settings content diagnostics loads, exitCode_report, if_pos harmless]
  · rcases loads_or_fails files options with
      ⟨settings, content, diagnostics, loads⟩ | ⟨failure, failed, exit⟩
    · rw [reported settings content diagnostics loads, exitCode_report]
      split
      · exact .inl rfl
      · exact .inr rfl
    · rw [ran, Command.run, failed]
      exact .inr exit

/-- A warning with an explanation is printed, and a code without a severity ends the report. -/
theorem run_report_refusal :
    let options : ReportOptions := ⟨"a", "b", none, true, false, false, false⟩
    let files : Files := fun path =>
      if path = "a" then some "x\n".toUTF8 else some "[[1,1,\"m\",\"e\"],[3,0,\"n\"]]".toUTF8
    let source := SourceText.source ⟨"a", .disk, "x\n"⟩
    let diagnostics : List Diagnostic :=
      [⟨1, ⟨"m", some "e"⟩, .within source 1⟩, ⟨3, ⟨"n", none⟩, .within source 0⟩]
    let outcome := run files ["report", "--explain", "a", "b"]
    Command.parse ["report", "--explain", "a", "b"] = .ok (.report options) ∧
      Loads files options {} "x\n" diagnostics ∧
      outcome.printed = transcript (options.merge {}) diagnostics ∧
      outcome.exitCode = 1 := by
  intro options files source diagnostics outcome
  have parsed : Command.parse ["report", "--explain", "a", "b"] = .ok (.report options) := by
    decide +kernel
  have text : (files "a").bind String.fromUTF8? = some "x\n" := by decide +kernel
  have replay : (files "b").bind String.fromUTF8? = some "[[1,1,\"m\",\"e\"],[3,0,\"n\"]]" := by
    decide +kernel
  have records : Replay.records? "[[1,1,\"m\",\"e\"],[3,0,\"n\"]]" =
      some [⟨.code 1, some 1, "m", some "e"⟩, ⟨.code 3, some 0, "n", none⟩] := by
    decide +kernel
  have loads : Loads files options {} "x\n" diagnostics := by
    refine ⟨rfl, text, ?_⟩
    change Replay.load source (files "b") = _
    rw [Replay.load, replay]
    simp only [Replay.parse, records]
    rfl
  refine ⟨parsed, loads, (run_report parsed).1 _ _ _ loads, ?_⟩
  decide +kernel

end CommandLine

end DiagnosticRelay
