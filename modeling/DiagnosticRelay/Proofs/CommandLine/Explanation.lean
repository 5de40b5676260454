import DiagnosticRelay.Proofs.CommandLine.Report
import DiagnosticRelay.Proofs.Explain.Asked
import DiagnosticRelay.Proofs.Rendering.Parts
import DiagnosticRelay.Proofs.Replay.Resolution

/-!
# What explanations change

Two runs are compared whose diagnostics agree in everything but their explanations. A rule only asks
whether there is something to explain, so as long as the runs agree in this, they differ in nothing
but the texts behind the headers. An explanation that is absent and one that is empty are the same
to every rule and rendering, and without a rule that is switched on, no explanation is looked at.
-/

namespace DiagnosticRelay

/-! ## Runs that agree besides explanations -/

/-- There is no explanation, or an empty one. -/
def IsSilent (explanation? : Option String) : Prop :=
  explanation? = none ∨ explanation? = some ""

/-- Either there is something to explain in both cases, or in neither. -/
def AreSilentAlike (explanation? explanation'? : Option String) : Prop :=
  IsSilent explanation? ↔ IsSilent explanation'?

/-- The explanation stays, or an absent one and an empty one are exchanged. -/
def IsExchanged (explanation? explanation'? : Option String) : Prop :=
  explanation'? = explanation? ∨ IsSilent explanation? ∧ IsSilent explanation'?

/-- Two diagnostics agree in everything but their explanations, which stand in the relation. -/
structure Diagnostic.SameBesides (R : Option String → Option String → Prop)
    (diagnostic diagnostic' : Diagnostic) : Prop where
  code : diagnostic'.code = diagnostic.code
  location : diagnostic'.location = diagnostic.location
  text : diagnostic'.message.text = diagnostic.message.text
  explanation : R diagnostic.message.explanation? diagnostic'.message.explanation?

theorem Message.hasExplanation_iff_not_isSilent {message : Message} :
    message.hasExplanation = true ↔ ¬IsSilent message.explanation? := by
  obtain ⟨text, _ | explanation⟩ := message
  · simp [hasExplanation, Message.explanation, IsSilent]
  · simp [hasExplanation, Message.explanation, IsSilent]

/-- What there is to explain stands in the block that explains it. -/
theorem Message.exists_explanationBlock {message : Message} (full : message.hasExplanation = true) :
    ∃ explanation, message.explanation? = some explanation ∧ explanation ≠ "" ∧
      message.explanationBlock true = "\n\nExplanation\n===========\n" ++ explanation := by
  rw [hasExplanation_iff_not_isSilent] at full
  obtain ⟨text, _ | explanation⟩ := message
  · exact absurd (.inl rfl) full
  · exact ⟨explanation, rfl, fun empty => full (.inr (congrArg some empty)), rfl⟩

theorem Message.explanationBlock_congr {message message' : Message} {shown : Bool}
    (explanation : shown = true → message'.explanation = message.explanation) :
    message'.explanationBlock shown = message.explanationBlock shown := by
  cases shown with
  | false => rfl
  | true => exact congrArg ("\n\nExplanation\n===========\n" ++ ·) (explanation rfl)

theorem IsSilent.explanation_eq {message : Message} (silent : IsSilent message.explanation?) :
    message.explanation = "" := by
  obtain absent | empty := silent
  · rw [Message.explanation, absent, Option.getD_none]
  · rw [Message.explanation, empty, Option.getD_some]

theorem IsExchanged.explanation_eq {message message' : Message}
    (exchanged : IsExchanged message.explanation? message'.explanation?) :
    message'.explanation = message.explanation := by
  obtain stays | ⟨silent, silent'⟩ := exchanged
  · rw [Message.explanation, stays, Message.explanation]
  · rw [silent.explanation_eq, silent'.explanation_eq]

theorem IsExchanged.areSilentAlike {explanation? explanation'? : Option String}
    (exchanged : IsExchanged explanation? explanation'?) :
    AreSilentAlike explanation? explanation'? := by
  obtain rfl | ⟨silent, silent'⟩ := exchanged
  · exact Iff.rfl
  · exact ⟨fun _ => silent', fun _ => silent⟩

theorem Message.hasExplanation_congr {message message' : Message}
    (alike : AreSilentAlike message.explanation? message'.explanation?) :
    message'.hasExplanation = message.hasExplanation := by
  rw [Bool.eq_iff_iff, hasExplanation_iff_not_isSilent, hasExplanation_iff_not_isSilent]
  exact (not_congr alike).symm

variable {R : Option String → Option String → Prop} {diagnostic diagnostic' : Diagnostic}
  {run run' : List Diagnostic}

/-- A diagnostic that differs from another one in its explanation becomes a problem that differs in
the block that explains it. -/
theorem Problem.ofDiagnostic_sameBesides (same : diagnostic.SameBesides R diagnostic')
    (showSource explained : Bool) (severity : Severity) :
    ofDiagnostic (.plain showSource) diagnostic' severity explained =
      { ofDiagnostic (.plain showSource) diagnostic severity explained with
        rendered := headOf diagnostic severity ++
          (if showSource then (Placement.ofLocation diagnostic.location).excerpt else "") ++
          diagnostic'.message.explanationBlock explained } := by
  have head : headOf diagnostic' severity = headOf diagnostic severity := by
    simp only [headOf, same.location, same.text]
  have text := rendered_ofDiagnostic diagnostic' severity showSource explained
  rw [head, same.location] at text
  rw [← text]
  simp only [ofDiagnostic, same.location, same.text]

namespace Relay

variable {σ : Type} {relay : Relay σ} {state state' : State σ}

/-! ## Diagnostics that a relay does not tell apart -/

/-- Whatever the state, the diagnostics are reported with the same result and leave the same state
behind. -/
def IsBlindTo (relay : Relay σ) (diagnostic diagnostic' : Diagnostic) : Prop :=
  ∀ state, relay.report state diagnostic' = relay.report state diagnostic

theorem run_of_isBlindTo (blind : List.Forall₂ relay.IsBlindTo run run') (state : State σ) :
    relay.reportEach state run' = relay.reportEach state run ∧
      relay.after state run' = relay.after state run ∧
      relay.reportAll state run' = relay.reportAll state run := by
  induction blind generalizing state with
  | nil => exact ⟨rfl, rfl, rfl⟩
  | @cons diagnostic diagnostic' rest rest' head _ ih =>
    have next : relay.next state diagnostic' = relay.next state diagnostic := by
      rw [next, head state, Relay.next]
    obtain ⟨results, states, -⟩ := ih (relay.next state diagnostic)
    refine ⟨?_, ?_, ?_⟩
    · rw [reportEach, reportEach, head state, next, results]
    · rw [after_cons, after_cons, next, states]
    · rw [reportAll, reportAll, head state]
      obtain ⟨bad | problem, after⟩ := relay.report state diagnostic
      · rfl
      · simp only [(ih after).2.2]

/-- A relay that renders plainly is blind to a difference that its policy does not see and that no
block shows. -/
theorem isBlindTo_of_sameBesides {policy : ExplainPolicy σ} {showSource : Bool}
    (same : diagnostic.SameBesides R diagnostic')
    (asked : ∀ memory, policy.ask memory diagnostic' = policy.ask memory diagnostic)
    (block : ∀ memory, diagnostic'.message.explanationBlock
        ((plain policy showSource).shows memory diagnostic') =
      diagnostic.message.explanationBlock ((plain policy showSource).shows memory diagnostic)) :
    (plain policy showSource).IsBlindTo diagnostic diagnostic' := by
  intro state
  cases known : Severity.ofCode? diagnostic.code with
  | none =>
    have known' : Severity.ofCode? diagnostic'.code = none := same.code ▸ known
    rw [report_of_no_severity known, report_of_no_severity known', same.code]
  | some severity =>
    have known' : Severity.ofCode? diagnostic'.code = some severity := same.code ▸ known
    have problem : Problem.ofDiagnostic (.plain showSource) diagnostic' severity
          ((plain policy showSource).shows state.memory diagnostic') =
        Problem.ofDiagnostic (.plain showSource) diagnostic severity
          ((plain policy showSource).shows state.memory diagnostic) := by
      rw [Problem.ofDiagnostic_sameBesides same, block, ← Problem.rendered_ofDiagnostic]
      rfl
    rw [report_of_severity known, report_of_severity known']
    simp only [plain] at problem ⊢
    rw [problem, asked]

/-! ## Diagnostics that are explained alike -/

/-- The diagnostics have the same code, and the policy answers them alike and remembers the same. -/
structure AreAskedAlike (policy : ExplainPolicy σ) (diagnostic diagnostic' : Diagnostic) :
    Prop where
  code : diagnostic'.code = diagnostic.code
  asked : ∀ memory, policy.ask memory diagnostic' = policy.ask memory diagnostic

theorem next_of_areAskedAlike (alike : AreAskedAlike relay.policy diagnostic diagnostic')
    (memory : state'.memory = state.memory) (tally : state'.console.tally = state.console.tally) :
    (relay.next state' diagnostic').memory = (relay.next state diagnostic).memory ∧
      (relay.next state' diagnostic').console.tally =
        (relay.next state diagnostic).console.tally := by
  cases known : Severity.ofCode? diagnostic.code with
  | none =>
    have known' : Severity.ofCode? diagnostic'.code = none := alike.code ▸ known
    rw [next_of_no_severity known, next_of_no_severity known']
    exact ⟨memory, tally⟩
  | some severity =>
    have known' : Severity.ofCode? diagnostic'.code = some severity := alike.code ▸ known
    rw [next_of_severity known, next_of_severity known', memory, alike.asked]
    refine ⟨rfl, ?_⟩
    rw [Console.tally_log, Console.tally_log, tally]
    rfl

theorem after_of_areAskedAlike (alike : List.Forall₂ (AreAskedAlike relay.policy) run run')
    (memory : state'.memory = state.memory) (tally : state'.console.tally = state.console.tally) :
    (relay.after state' run').memory = (relay.after state run).memory ∧
      (relay.after state' run').console.tally = (relay.after state run).console.tally := by
  induction alike generalizing state state' with
  | nil => exact ⟨memory, tally⟩
  | cons head _ ih =>
    obtain ⟨memory, tally⟩ := next_of_areAskedAlike head memory tally
    rw [after_cons, after_cons]
    exact ih memory tally

/-- Two results of diagnostics that differ in their explanations: either the same result, in which
nothing is explained, or problems with the same front, each with the header and its own explanation
behind it. -/
inductive DiffersBehindHeader (showSource : Bool) (diagnostic diagnostic' : Diagnostic) :
    Except BadCode Problem → Except BadCode Problem → Prop where
  | refused (bad : BadCode) :
      DiffersBehindHeader showSource diagnostic diagnostic' (.error bad) (.error bad)
  | unexplained {problem : Problem} {head block : String}
      (front : problem.HasFront showSource head block)
      (rendered : problem.rendered = head ++ block) :
      DiffersBehindHeader showSource diagnostic diagnostic' (.ok problem) (.ok problem)
  | explained {problem : Problem} {head block explanation explanation' : String}
      (front : problem.HasFront showSource head block)
      (given : diagnostic.message.explanation? = some explanation)
      (given' : diagnostic'.message.explanation? = some explanation')
      (nonempty : explanation ≠ "") (nonempty' : explanation' ≠ "")
      (rendered : problem.rendered =
        head ++ block ++ ("\n\nExplanation\n===========\n" ++ explanation)) :
      DiffersBehindHeader showSource diagnostic diagnostic' (.ok problem)
        (.ok { problem with
          rendered := head ++ block ++ ("\n\nExplanation\n===========\n" ++ explanation') })

theorem differsBehindHeader_ofDiagnostic
    (same : diagnostic.SameBesides AreSilentAlike diagnostic')
    (showSource : Bool) (severity : Severity) (shown : Bool)
    (full : shown = true → diagnostic.message.hasExplanation = true) :
    DiffersBehindHeader showSource diagnostic diagnostic'
      (.ok (.ofDiagnostic (.plain showSource) diagnostic severity shown))
      (.ok (.ofDiagnostic (.plain showSource) diagnostic' severity shown)) := by
  have front := Problem.hasFront_ofDiagnostic diagnostic severity showSource shown
  have rendered := Problem.rendered_ofDiagnostic diagnostic severity showSource shown
  have problem := Problem.ofDiagnostic_sameBesides same showSource shown severity
  cases shown with
  | false =>
    have equal := problem.trans (congrArg (fun text =>
      { Problem.ofDiagnostic (.plain showSource) diagnostic severity false with rendered := text })
        rendered.symm)
    rw [equal]
    exact .unexplained front (rendered.trans String.append_empty)
  | true =>
    have full' := (Message.hasExplanation_congr same.explanation).trans (full rfl)
    obtain ⟨explanation, given, nonempty, block⟩ := Message.exists_explanationBlock (full rfl)
    obtain ⟨explanation', given', nonempty', block'⟩ := Message.exists_explanationBlock full'
    rw [block] at rendered
    rw [problem, block']
    exact .explained front given given' nonempty nonempty' rendered

theorem differsBehindHeader_of_report {policy : ExplainPolicy σ} {showSource : Bool}
    (same : diagnostic.SameBesides AreSilentAlike diagnostic')
    (asked : ∀ memory, policy.ask memory diagnostic' = policy.ask memory diagnostic)
    (memory : state'.memory = state.memory) :
    DiffersBehindHeader showSource diagnostic diagnostic'
      ((plain policy showSource).report state diagnostic).1
      ((plain policy showSource).report state' diagnostic').1 := by
  cases known : Severity.ofCode? diagnostic.code with
  | none =>
    have known' : Severity.ofCode? diagnostic'.code = none := same.code ▸ known
    rw [report_of_no_severity known, report_of_no_severity known', same.code]
    exact .refused _
  | some severity =>
    have known' : Severity.ofCode? diagnostic'.code = some severity := same.code ▸ known
    have shows : (plain policy showSource).shows state'.memory diagnostic' =
        (plain policy showSource).shows state.memory diagnostic := by
      simp only [Relay.shows, plain, memory, asked, Message.hasExplanation_congr same.explanation]
    rw [report_of_severity known, report_of_severity known', shows]
    exact differsBehindHeader_ofDiagnostic same showSource severity _
      fun shown => (Bool.and_eq_true_iff.mp shown).2

/-- Runs that agree in whether there is something to explain differ behind the headers only. -/
theorem differsBehindHeader_of_run {policy : ExplainPolicy σ} {showSource : Bool} {i : Nat}
    (same : List.Forall₂ (Diagnostic.SameBesides AreSilentAlike) run run')
    (alike : List.Forall₂ (AreAskedAlike policy) run run')
    (memory : state'.memory = state.memory) (tally : state'.console.tally = state.console.tally)
    (h : run[i]? = some diagnostic) (h' : run'[i]? = some diagnostic') :
    ∃ result result', ((plain policy showSource).reportEach state run)[i]? = some result ∧
      ((plain policy showSource).reportEach state' run')[i]? = some result' ∧
      DiffersBehindHeader showSource diagnostic diagnostic' result result' := by
  refine ⟨_, _, getElem?_reportEach h, getElem?_reportEach h', ?_⟩
  obtain ⟨inside, rfl⟩ := List.getElem?_eq_some_iff.mp h
  obtain ⟨inside', rfl⟩ := List.getElem?_eq_some_iff.mp h'
  have before := List.forall₂_take i alike
  apply differsBehindHeader_of_report
  · exact same.get inside inside'
  · exact (alike.get inside inside').asked
  · exact (after_of_areAskedAlike before memory tally).1

end Relay

/-! ## Rules and settings -/

theorem ExplainRule.areAskedAlike (rule : ExplainRule)
    (same : diagnostic.SameBesides AreSilentAlike diagnostic') :
    Relay.AreAskedAlike rule.policy diagnostic diagnostic' :=
  ⟨same.code, rule.ask_congr same.code same.text (Message.hasExplanation_congr same.explanation)⟩

/-- No rule makes a difference between an absent explanation and an empty one. -/
theorem ExplainRule.isBlindTo_of_exchanged (rule : ExplainRule) (showSource : Bool)
    (same : diagnostic.SameBesides IsExchanged diagnostic') :
    (Relay.plain rule.policy showSource).IsBlindTo diagnostic diagnostic' := by
  have explains := Message.hasExplanation_congr same.explanation.areSilentAlike
  have asked := rule.ask_congr same.code same.text explains
  apply Relay.isBlindTo_of_sameBesides same asked
  intro memory
  have shows : (Relay.plain rule.policy showSource).shows memory diagnostic' =
      (Relay.plain rule.policy showSource).shows memory diagnostic := by
    simp only [Relay.shows, Relay.plain, asked, explains]
  rw [shows]
  exact Message.explanationBlock_congr fun _ => same.explanation.explanation_eq

namespace Settings

/-- A rule that is not switched on refuses every diagnostic and remembers nothing. -/
theorem ask_of_not_enabled {settings : Settings} (off : settings.explain.enabled = false)
    (memory : settings.rule.Memory) (diagnostic : Diagnostic) :
    settings.rule.policy.ask memory diagnostic = (false, memory) := by
  obtain ⟨⟨enabled, once, severities⟩, render⟩ := settings
  obtain rfl : enabled = false := off
  cases once with
  | false => rfl
  | true => rfl

/-- Where nothing is explained, no explanation makes a difference. -/
theorem isBlindTo_of_not_enabled {settings : Settings} (off : settings.explain.enabled = false)
    (same : diagnostic.SameBesides R diagnostic') (showSource : Bool) :
    (Relay.plain settings.rule.policy showSource).IsBlindTo diagnostic diagnostic' := by
  have asked := ask_of_not_enabled off
  apply Relay.isBlindTo_of_sameBesides same
  · intro memory
    rw [asked, asked]
  · intro memory
    simp only [Relay.shows, Relay.plain, asked, Bool.false_and]
    rfl

end Settings

namespace CommandLine

/-- A report cannot tell apart what its relay cannot. -/
theorem report_of_isBlindTo {settings : Settings}
    (blind : List.Forall₂ (relayOf settings).IsBlindTo run run') :
    report settings run' = report settings run := by
  have same : relayed settings run' = relayed settings run :=
    (Relay.run_of_isBlindTo blind _).2.2
  rw [report_eq, report_eq, same]

end CommandLine

/-! ## Replays -/

namespace Replay

/-- Two records agree in everything but their explanations, which stand in the relation. -/
structure Record.SameBesides (R : Option String → Option String → Prop) (record record' : Record) :
    Prop where
  level : record'.level = record.level
  offset : record'.offset? = record.offset?
  message : record'.message = record.message
  explanation : R record.explanation? record'.explanation?

theorem Record.SameBesides.sameOutcome {record record' : Record}
    (same : record.SameBesides R record') (source : Source) :
    SameOutcome (Diagnostic.SameBesides R) (record.diagnostic source)
      (record'.diagnostic source) := by
  have code := Record.code_congr same.level
  cases read : record.code with
  | error unknown =>
    rw [Record.diagnostic, Record.diagnostic, code, read]
    exact .error unknown
  | ok n =>
    rw [Record.diagnostic, Record.diagnostic, code, read, same.offset]
    exact .ok ⟨rfl, rfl, same.message, same.explanation⟩

theorem parse_sameOutcome {text text' : String} {records records' : List Record} (source : Source)
    (holds : HoldsRecords text records) (holds' : HoldsRecords text' records')
    (same : List.Forall₂ (Record.SameBesides R) records records') :
    SameOutcome (List.Forall₂ (Diagnostic.SameBesides R)) (parse source text)
      (parse source text') := by
  rw [parse_of_holdsRecords holds, parse_of_holdsRecords holds']
  apply resolve_sameOutcome
  exact same.imp fun _ _ same => same.sameOutcome source

end Replay

namespace CommandLine

/-- Two runs whose diagnostics agree besides their explanations, and in whether there is something
to explain, forward the same problems, save the texts behind the headers, and count the same. If
only absent explanations and empty ones are exchanged, in a run or in the text of a replay, nothing
changes at all, in what is forwarded, remembered, counted and printed. Nor does anything change if
the settings do not switch explanations on, whatever the explanations are. -/
theorem explanations_behind_headers (settings : Settings)
    (state : Relay.State settings.rule.Memory) :
    let relay := relayOf settings
    (∀ run run', List.Forall₂ (Diagnostic.SameBesides AreSilentAlike) run run' →
      (∀ (i : Nat) (diagnostic diagnostic' : Diagnostic), run[i]? = some diagnostic →
        run'[i]? = some diagnostic' → ∃ result result',
          (relay.reportEach state run)[i]? = some result ∧
          (relay.reportEach state run')[i]? = some result' ∧
          Relay.DiffersBehindHeader settings.render.showSource diagnostic diagnostic'
            result result') ∧
      (relay.after state run').memory = (relay.after state run).memory ∧
      (relay.after state run').console.tally = (relay.after state run).console.tally) ∧
    (∀ run run', List.Forall₂ (Diagnostic.SameBesides IsExchanged) run run' →
      relay.reportEach state run' = relay.reportEach state run ∧
      relay.after state run' = relay.after state run ∧ report settings run' = report settings run) ∧
    (∀ text text' records records', Replay.HoldsRecords text records →
      Replay.HoldsRecords text' records' →
      List.Forall₂ (Replay.Record.SameBesides IsExchanged) records records' → ∀ source,
        let outcome := fun run =>
          (relay.reportEach state run, relay.after state run, report settings run)
        (Replay.parse source text').map outcome = (Replay.parse source text).map outcome) ∧
    (settings.explain.enabled = false → ∀ run run',
      List.Forall₂ (Diagnostic.SameBesides fun _ _ => True) run run' →
      relay.reportEach state run' = relay.reportEach state run ∧
      relay.after state run' = relay.after state run ∧
      report settings run' = report settings run) := by
  intro relay
  have indistinct : ∀ run run', List.Forall₂ relay.IsBlindTo run run' →
      relay.reportEach state run' = relay.reportEach state run ∧
      relay.after state run' = relay.after state run ∧
      report settings run' = report settings run := by
    intro run run' blind
    obtain ⟨results, states, -⟩ := Relay.run_of_isBlindTo blind state
    exact ⟨results, states, report_of_isBlindTo blind⟩
  have exchanged : ∀ run run', List.Forall₂ (Diagnostic.SameBesides IsExchanged) run run' →
      List.Forall₂ relay.IsBlindTo run run' := by
    intro run run' same
    exact same.imp fun _ _ same => settings.rule.isBlindTo_of_exchanged _ same
  refine ⟨?_, ?_, ?_, ?_⟩
  · intro run run' same
    have alike : List.Forall₂ (Relay.AreAskedAlike settings.rule.policy) run run' :=
      same.imp fun _ _ same => settings.rule.areAskedAlike same
    refine ⟨?_, ?_⟩
    · intro i diagnostic diagnostic' h h'
      exact Relay.differsBehindHeader_of_run same alike rfl rfl h h'
    · exact Relay.after_of_areAskedAlike alike rfl rfl
  · intro run run' same
    exact indistinct run run' (exchanged run run' same)
  · intro text text' records records' holds holds' same source outcome
    apply (Replay.parse_sameOutcome source holds holds' same).map_eq
    intro run run' same
    obtain ⟨results, states, reports⟩ := indistinct run run' (exchanged run run' same)
    simp only [outcome, results, states, reports]
  · -- Nothing is asked of the explanations here, so that any relation between them will do.
    intro off run run' same
    apply indistinct
    exact same.imp fun _ _ same => Settings.isBlindTo_of_not_enabled off same _

end CommandLine

end DiagnosticRelay
