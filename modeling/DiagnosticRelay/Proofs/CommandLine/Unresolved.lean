import DiagnosticRelay.Proofs.CommandLine.Report
import DiagnosticRelay.Proofs.Explain.Asked
import DiagnosticRelay.Proofs.Replay.Resolution
import Mathlib.Data.List.Forall2

/-!
# Reports of an unresolved source

A source that cannot be resolved has neither a path nor a column to show, although the line of an
offset is known. So nothing of it reaches a report: neither its path nor its text nor the offsets of
the diagnostics make a difference, and every problem reads as if it pointed nowhere.
-/

namespace DiagnosticRelay

/-! ## Texts without a place -/

/-- The location points nowhere, or into a source that cannot be resolved. -/
def Location.IsUnplaced : Location → Prop
  | nowhere => True
  | within source _ => source.resolved = false

namespace Placement

variable {location : Location}

theorem heading_of_isUnplaced (unplaced : location.IsUnplaced) :
    (ofLocation location).heading = "" := by
  cases location with
  | nowhere => rfl
  | within source offset =>
      have unresolved : source.resolved = false := unplaced
      simp [ofLocation, heading, unresolved]

theorem excerpt_of_isUnplaced (unplaced : location.IsUnplaced) :
    (ofLocation location).excerpt = "" := by
  cases location with
  | nowhere => rfl
  | within source offset =>
      have unresolved : source.resolved = false := unplaced
      simp [ofLocation, excerpt, unresolved]

end Placement

/-- The short text of a message without a place is its label and its text, whether sources are shown
or not. -/
theorem Rendering.short_plain_of_isUnplaced {location : Location}
    (unplaced : location.IsUnplaced) (showSource : Bool) (message : Message) (label : String) :
    (plain showSource).short message location label = s!"{label}: {message.text}" := by
  cases showSource with
  | false => simp [plain, Placement.heading_of_isUnplaced unplaced, toString]
  | true =>
      simp [plain, Placement.heading_of_isUnplaced unplaced,
        Placement.excerpt_of_isUnplaced unplaced, toString]

/-- The diagnostics say the same, and neither has a place. -/
structure Diagnostic.SameUnplaced (diagnostic diagnostic' : Diagnostic) : Prop where
  code : diagnostic'.code = diagnostic.code
  message : diagnostic'.message = diagnostic.message
  unplaced : diagnostic.location.IsUnplaced
  unplaced' : diagnostic'.location.IsUnplaced

/-- Relays that follow the same rule treat diagnostics without a place alike. -/
theorem Diagnostic.SameUnplaced.alike {diagnostic diagnostic' : Diagnostic}
    (same : diagnostic.SameUnplaced diagnostic') (rule : ExplainRule)
    (showSource showSource' : Bool) :
    Relay.Alike ⟨.plain showSource, rule.policy⟩ ⟨.plain showSource', rule.policy⟩
      diagnostic diagnostic' := by
  refine ⟨same.code, ?_⟩
  intro memory severity
  have asked := rule.ask_congr same.code (by rw [same.message]) (by rw [same.message]) memory
  simp only [Relay.render_eq, Relay.shows, Problem.ofDiagnostic, asked, same.message,
    Rendering.short_plain_of_isUnplaced same.unplaced,
    Rendering.short_plain_of_isUnplaced same.unplaced']
  rfl

/-! ## Two reports -/

namespace Replay

/-- The records say the same, save perhaps where. -/
structure Record.SameUpToOffset (record record' : Record) : Prop where
  level : record'.level = record.level
  message : record'.message = record.message
  explanation : record'.explanation? = record.explanation?

theorem Record.SameUpToOffset.refl (record : Record) : record.SameUpToOffset record :=
  ⟨rfl, rfl, rfl⟩

variable {source source' : Source} {records records' : List Record}

/-- A record of a source that cannot be resolved becomes a diagnostic without a place. -/
theorem Record.exists_diagnostic {record : Record} {code : Int}
    (unresolved : source.resolved = false) (read : record.code = .ok code) :
    ∃ diagnostic, record.diagnostic source = .ok diagnostic ∧ diagnostic.code = code ∧
      diagnostic.message = ⟨record.message, record.explanation?⟩ ∧
      diagnostic.location.IsUnplaced := by
  refine ⟨_, by rw [Record.diagnostic, read]; rfl, rfl, rfl, ?_⟩
  cases record.offset? with
  | none => trivial
  | some offset => exact unresolved

/-- A record and its like both have an unknown level, or both become diagnostics without a place. -/
theorem Record.SameUpToOffset.sameOutcome {record record' : Record}
    (same : record.SameUpToOffset record') (unresolved : source.resolved = false)
    (unresolved' : source'.resolved = false) :
    SameOutcome Diagnostic.SameUnplaced (record.diagnostic source)
      (record'.diagnostic source') := by
  have code := Record.code_congr same.level
  cases read : record.code with
  | error unknown =>
      rw [Record.diagnostic, Record.diagnostic, code, read]
      exact .error unknown
  | ok n =>
      obtain ⟨diagnostic, first, coded, worded, unplaced⟩ :=
        Record.exists_diagnostic unresolved read
      obtain ⟨diagnostic', first', coded', worded', unplaced'⟩ :=
        Record.exists_diagnostic unresolved' (code.trans read)
      rw [first, first']
      refine .ok ⟨?_, ?_, unplaced, unplaced'⟩
      · rw [coded, coded']
      · rw [worded, worded', same.message, same.explanation]

/-- Records and their likes fail at the same number, or all become diagnostics without a place. -/
theorem resolve_of_sameUpToOffset (unresolved : source.resolved = false)
    (unresolved' : source'.resolved = false)
    (same : List.Forall₂ Record.SameUpToOffset records records') (number : Nat) :
    (∃ failure, resolve source number records = .error failure ∧
      resolve source' number records' = .error failure) ∨
    ∃ diagnostics diagnostics', resolve source number records = .ok diagnostics ∧
      resolve source' number records' = .ok diagnostics' ∧
      List.Forall₂ Diagnostic.SameUnplaced diagnostics diagnostics' := by
  apply SameOutcome.error_or_ok
  apply resolve_sameOutcome
  exact same.imp fun _ _ same => same.sameOutcome unresolved unresolved'

theorem isUnplaced_of_resolve {number : Nat} {diagnostics : List Diagnostic}
    (unresolved : source.resolved = false)
    (resolved : resolve source number records = .ok diagnostics) :
    ∀ diagnostic ∈ diagnostics, diagnostic.location.IsUnplaced := by
  have same : List.Forall₂ Record.SameUpToOffset records records :=
    List.forall₂_same.mpr fun record _ => .refl record
  rcases resolve_of_sameUpToOffset unresolved unresolved same number with
    ⟨failure, failed, -⟩ | ⟨first, second, resolved₁, resolved₂, places⟩
  · rw [resolved] at failed
    cases failed
  · obtain rfl : diagnostics = first := Except.ok.inj (resolved.symm.trans resolved₁)
    obtain rfl : diagnostics = second := Except.ok.inj (resolved.symm.trans resolved₂)
    intro diagnostic member
    exact (List.forall₂_same.mp places diagnostic member).unplaced

end Replay

namespace CommandLine

/-- What a report reads from its files: its settings, a text as its source, and the records of its
replay. -/
structure Reads (files : Files) (options : ReportOptions) (settings : Settings)
    (records : List Replay.Record) : Prop where
  settings : LoadsSettings files options settings
  source : ∃ content, (files options.source).bind String.fromUTF8? = some content
  replay : ((files options.replay).bind String.fromUTF8?).bind Replay.records? = some records

section Unresolved

variable {files files' : Files} {options options' : ReportOptions} {settings : Settings}
  {records records' : List Replay.Record} {diagnostics diagnostics' : List Diagnostic}

/-- A report that loads what it needs reads records that are resolved against its source. -/
theorem Loads.exists_reads {content : String}
    (loads : Loads files options settings content diagnostics) :
    ∃ records, Reads files options settings records ∧
      Replay.resolve (SourceText.source ⟨options.source, options.origin, content⟩) 1 records =
        .ok diagnostics := by
  have replay := loads.replay
  rw [Replay.load] at replay
  cases read : (files options.replay).bind String.fromUTF8? with
  | none =>
      rw [read] at replay
      cases replay
  | some text =>
      simp only [read, Replay.parse] at replay
      cases found : Replay.records? text with
      | none =>
          rw [found] at replay
          cases replay
      | some records =>
          rw [found] at replay
          exact ⟨records, ⟨loads.settings, ⟨content, loads.source⟩, by rw [read]; exact found⟩,
            replay⟩

/-- A report that loads what it needs prints the transcript of the diagnostics. -/
theorem Loads.printed_run {content : String} {arguments : List String}
    (loads : Loads files options settings content diagnostics)
    (parsed : Command.parse arguments = .ok (.report options)) :
    (run files arguments).printed = transcript (options.merge settings) diagnostics := by
  rw [run, parsed]
  simp only [Command.run, loads.settings.loadReport_eq loads.source, loads.replay, printed_report]

theorem Reads.loadReport_eq (reads : Reads files options settings records) :
    ∃ content, loadReport files options =
      match Replay.resolve (SourceText.source ⟨options.source, options.origin, content⟩) 1
        records with
      | .ok diagnostics => .ok (options.merge settings, diagnostics)
      | .error failure => .error (.replay failure) := by
  obtain ⟨content, source⟩ := reads.source
  obtain ⟨text, read, found⟩ := Option.bind_eq_some_iff.mp reads.replay
  have resolved (source : Source) :
      Replay.load source (files options.replay) = Replay.resolve source 1 records := by
    rw [Replay.load, read]
    simp only [Replay.parse, found]
  have loaded := reads.settings.loadReport_eq source
  rw [resolved] at loaded
  exact ⟨content, loaded⟩

/-- Without places, it makes no difference how problems are rendered. -/
theorem report_of_sameUnplaced (settings : Settings) (render : RenderSettings)
    (same : List.Forall₂ Diagnostic.SameUnplaced diagnostics diagnostics') :
    report { settings with render } diagnostics' = report settings diagnostics ∧
      (relayed { settings with render } diagnostics').problems.map (·.rendered) =
        (relayed settings diagnostics).problems.map (·.rendered) := by
  have alike := same.imp fun _ _ same =>
    same.alike settings.rule settings.render.showSource render.showSource
  obtain ⟨state, refusal, texts⟩ :
      (relayed { settings with render } diagnostics').state = (relayed settings diagnostics).state ∧
        (relayed { settings with render } diagnostics').refusal? =
          (relayed settings diagnostics).refusal? ∧
        (relayed { settings with render } diagnostics').problems.map (·.rendered) =
          (relayed settings diagnostics).problems.map (·.rendered) :=
    Relay.reportAll_of_alike alike ((relayOf settings).start {})
  refine ⟨?_, texts⟩
  rw [report_eq, report_eq, refusal, state]

/-- Two reports that differ in their sources, and perhaps in whether lines of text are shown. -/
structure ReportOptions.SameBesidesSource (options options' : ReportOptions) : Prop where
  explain : options'.explain = options.explain
  explainOnce : options'.explainOnce = options.explainOnce
  unresolved : options'.unresolved = options.unresolved

theorem ReportOptions.SameBesidesSource.merge_eq (same : options.SameBesidesSource options')
    (settings : Settings) :
    options'.merge settings =
      { options.merge settings with
        render := ⟨settings.render.showSource && !options'.noSource⟩ } := by
  rw [merge, merge, same.explain, same.explainOnce]

theorem ReportOptions.resolved_source (unresolved : options.unresolved = true) (content : String) :
    (SourceText.source ⟨options.source, options.origin, content⟩).resolved = false := by
  rw [origin, if_pos unresolved]
  rfl

end Unresolved

/-- The outcome of a report whose source is unresolved does not depend on the path of the source, on
its text or on the offsets of the records, whether lines of text are shown or not. Every problem is
rendered as if its diagnostic pointed nowhere. -/
theorem run_unresolved {files files' : Files} {arguments arguments' : List String}
    {options options' : ReportOptions} {settings : Settings} {records records' : List Replay.Record}
    (parsed : Command.parse arguments = .ok (.report options))
    (parsed' : Command.parse arguments' = .ok (.report options'))
    (unresolved : options.unresolved = true) (same : options.SameBesidesSource options')
    (reads : Reads files options settings records)
    (reads' : Reads files' options' settings records')
    (alike : List.Forall₂ Replay.Record.SameUpToOffset records records') :
    run files' arguments' = run files arguments ∧
    ∀ content diagnostics, Loads files options settings content diagnostics →
      (run files arguments).printed = transcript (options.merge settings) diagnostics ∧
      (relayed (options.merge settings) diagnostics).problems.map (·.rendered) =
        (relayed (options.merge settings)
          (diagnostics.map ({ · with location := .nowhere }))).problems.map (·.rendered) := by
  have unresolved' : options'.unresolved = true := same.unresolved.trans unresolved
  constructor
  · obtain ⟨content, loaded⟩ := reads.loadReport_eq
    obtain ⟨content', loaded'⟩ := reads'.loadReport_eq
    rw [run, run, parsed, parsed']
    simp only [Command.run, loaded, loaded']
    rcases Replay.resolve_of_sameUpToOffset (options.resolved_source unresolved content)
        (options'.resolved_source unresolved' content') alike 1 with
      ⟨failure, failed, failed'⟩ | ⟨diagnostics, diagnostics', resolved, resolved', places⟩
    · rw [failed, failed']
    · rw [resolved, resolved', same.merge_eq]
      exact (report_of_sameUnplaced _ _ places).1
  · intro content diagnostics loads
    refine ⟨loads.printed_run parsed, ?_⟩
    obtain ⟨records, -, resolved⟩ := loads.exists_reads
    have unplaced :=
      Replay.isUnplaced_of_resolve (options.resolved_source unresolved content) resolved
    have moved : List.Forall₂ Diagnostic.SameUnplaced
        (diagnostics.map ({ · with location := .nowhere })) diagnostics := by
      rw [List.forall₂_map_left_iff, List.forall₂_same]
      intro diagnostic member
      exact ⟨rfl, rfl, trivial, unplaced diagnostic member⟩
    exact (report_of_sameUnplaced (options.merge settings) _ moved).2

/-- An offset inside a source comes to the same as no offset in an empty one. -/
theorem run_unresolved_moved :
    let options : ReportOptions := ⟨"a", "r", none, false, false, false, true⟩
    let options' : ReportOptions := ⟨"b", "s", none, false, false, true, true⟩
    let arguments := ["report", "--unresolved", "a", "r"]
    let arguments' := ["report", "--unresolved", "--no-source", "b", "s"]
    let files : Files := fun path =>
      if path = "a" then some "x\ny".toUTF8 else some "[[2,2,\"m\"]]".toUTF8
    let files' : Files := fun path =>
      if path = "b" then some "".toUTF8 else some "[[2,null,\"m\"]]".toUTF8
    let record : Replay.Record := ⟨.code 2, some 2, "m", none⟩
    let record' : Replay.Record := ⟨.code 2, none, "m", none⟩
    Command.parse arguments = .ok (.report options) ∧
      Command.parse arguments' = .ok (.report options') ∧
      Reads files options {} [record] ∧ Reads files' options' {} [record'] ∧
      run files' arguments' = run files arguments := by
  intro options options' arguments arguments' files files' record record'
  have parsed : Command.parse arguments = .ok (.report options) := by decide +kernel
  have parsed' : Command.parse arguments' = .ok (.report options') := by decide +kernel
  have reads : Reads files options {} [record] :=
    ⟨rfl, ⟨"x\ny", by decide +kernel⟩, by decide +kernel⟩
  have reads' : Reads files' options' {} [record'] :=
    ⟨rfl, ⟨"", by decide +kernel⟩, by decide +kernel⟩
  have same : options.SameBesidesSource options' := ⟨rfl, rfl, rfl⟩
  have alike : List.Forall₂ Replay.Record.SameUpToOffset [record] [record'] :=
    .cons ⟨rfl, rfl, rfl⟩ .nil
  exact ⟨parsed, parsed', reads, reads',
    (run_unresolved parsed parsed' rfl same reads reads' alike).1⟩

end CommandLine

end DiagnosticRelay
