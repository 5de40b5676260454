import DiagnosticRelay.Proofs.CommandLine.Report
import DiagnosticRelay.Proofs.Explain.Once
import Mathlib.Data.List.FinRange

/-!
# Reports in another order

A report counts, so its tally, its summary and its exit code do not depend on the order of the
diagnostics. Without the restriction to one explanation per text, every problem depends on its
diagnostic alone. With it, the order decides which diagnostic of a text carries the explanation, but
not which texts are explained: these are the texts of the diagnostics that something could be
explained of, wherever they stand. The list of severities in the settings counts as a set.
-/

namespace DiagnosticRelay

/-! ## Another order -/

/-- The items of a list in the order of a permutation of its positions. -/
def reorder {α : Type} (items : List α) (order : Equiv.Perm (Fin items.length)) : List α :=
  List.ofFn fun i => items[order i]

section Reorder

variable {α : Type} {items : List α} (order : Equiv.Perm (Fin items.length))

theorem perm_reorder : (reorder items order).Perm items := by
  have whole : List.ofFn (fun i : Fin items.length => items[i]) = items := List.ofFn_getElem
  have same := order.ofFn_comp_perm fun i => items[i]
  rwa [whole] at same

@[simp] theorem length_reorder : (reorder items order).length = items.length :=
  List.length_ofFn

theorem getElem?_reorder (i : Fin items.length) :
    (reorder items order)[(i : Nat)]? = some items[order i] := by
  simp [reorder]

@[simp] theorem forall_mem_reorder {p : α → Prop} :
    (∀ item ∈ reorder items order, p item) ↔ ∀ item ∈ items, p item := by
  simp only [(perm_reorder order).mem_iff]

end Reorder

/-! ## What the settings choose -/

/-- Only which severities are listed matters to a switch. -/
theorem ExplainPolicy.switch_congr (enabled : Bool) {severities severities' : List Severity}
    (same : ∀ severity, severity ∈ severities ↔ severity ∈ severities') :
    switch enabled severities = switch enabled severities' := by
  have contains : severities.contains = severities'.contains := by
    funext severity
    rw [Bool.eq_iff_iff, List.contains_iff_mem, List.contains_iff_mem, same]
  simp only [switch, contains]

namespace Problem

/-- The problem shows the explanation of its diagnostic. -/
def HasBlock (rendering : Rendering) (diagnostic : Diagnostic) (problem : Problem) : Prop :=
  problem.rendered =
    rendering.short diagnostic.message diagnostic.location problem.severity.label ++
      rendering.explanation diagnostic.message

/-- Two problems of one diagnostic that differ at most in showing the explanation. -/
def SameUpToBlock (rendering : Rendering) (diagnostic : Diagnostic) (problem problem' : Problem) :
    Prop :=
  ∃ severity explained explained', diagnostic.code = severity.code ∧
    problem = .ofDiagnostic rendering diagnostic severity explained ∧
    problem' = .ofDiagnostic rendering diagnostic severity explained'

/-- The block of a plain rendering is never empty, so it is there or not. -/
theorem hasBlock_ofDiagnostic_iff {showSource explained : Bool} {diagnostic : Diagnostic}
    {severity : Severity} :
    HasBlock (.plain showSource) diagnostic
        (.ofDiagnostic (.plain showSource) diagnostic severity explained) ↔ explained = true := by
  cases explained with
  | true => exact iff_of_true rfl rfl
  | false =>
      refine iff_of_false ?_ Bool.false_ne_true
      intro same
      have lengths := congrArg String.length same
      simp [ofDiagnostic, Rendering.plain, String.length_append, toString] at lengths

end Problem

namespace CommandLine

/-! ## The problems of a report -/

/-- The diagnostic at a position of a report is explained, and has this text. -/
def ExplainedAt (settings : Settings) (run : List Diagnostic) (i : Nat) (text : String) : Prop :=
  ∃ diagnostic problem, run[i]? = some diagnostic ∧
    (relayed settings run).problems[i]? = some problem ∧ diagnostic.message.text = text ∧
    problem.HasBlock settings.rendering diagnostic

/-- The switch of the settings, without the restriction to one explanation per text. -/
def switchOf (settings : Settings) : ExplainPolicy Unit :=
  .switch settings.explain.enabled settings.explain.severities

/-- What can be seen of a run of a relay: the problems, the refusal, and the console. -/
def observed {σ : Type} (relay : Relay σ) (run : List Diagnostic) :
    List Problem × Option BadCode × Console :=
  let outcome := relay.reportAll (relay.start {}) run
  (outcome.problems, outcome.refusal?, outcome.state.console)

variable {settings : Settings} {run : List Diagnostic} {i : Nat} {diagnostic : Diagnostic}
  {severity : Severity}

/-- The policy of the settings is their switch, restricted or not. -/
theorem observed_relayOf (settings : Settings) (run : List Diagnostic) :
    observed (relayOf settings) run =
      if settings.explain.once then observed ⟨settings.rendering, (switchOf settings).once⟩ run
      else observed ⟨settings.rendering, switchOf settings⟩ run := by
  change observed ⟨settings.rendering, settings.rule.policy⟩ run = _
  cases once : settings.explain.once with
  | true =>
      have rule : settings.rule =
          .once (.switch settings.explain.enabled settings.explain.severities) := by
        simp [Settings.rule, once]
      rw [rule]
      rfl
  | false =>
      have rule : settings.rule =
          .switch settings.explain.enabled settings.explain.severities := by
        simp [Settings.rule, once]
      rw [rule]
      rfl

theorem problems_relayed (settings : Settings) (run : List Diagnostic) :
    (relayed settings run).problems = (observed (relayOf settings) run).1 := rfl

theorem exists_severity (classified : ∀ diagnostic ∈ run, diagnostic.IsClassified)
    (h : run[i]? = some diagnostic) :
    ∃ severity, Severity.ofCode? diagnostic.code = some severity :=
  Diagnostic.isClassified_iff.mp (classified diagnostic (List.mem_of_getElem? h))

/-- Without the restriction, a problem depends on its diagnostic alone. -/
theorem getElem?_problems_of_not_once (always : settings.explain.once = false)
    (classified : ∀ diagnostic ∈ run, diagnostic.IsClassified) (h : run[i]? = some diagnostic)
    (known : Severity.ofCode? diagnostic.code = some severity) :
    (relayed settings run).problems[i]? =
      some (.ofDiagnostic settings.rendering diagnostic severity
        (Relay.shows ⟨settings.rendering, switchOf settings⟩ () diagnostic)) := by
  rw [problems_relayed, observed_relayOf, if_neg (by simp [always])]
  exact Relay.getElem?_problems_reportAll classified h known

/-- With the restriction, the first diagnostic of each text that something can be explained of is
explained. -/
theorem getElem?_problems_of_once (once : settings.explain.once = true)
    (classified : ∀ diagnostic ∈ run, diagnostic.IsClassified) (h : run[i]? = some diagnostic)
    (known : Severity.ofCode? diagnostic.code = some severity) :
    ∃ explained, (relayed settings run).problems[i]? =
        some (.ofDiagnostic settings.rendering diagnostic severity explained) ∧
      (explained = true ↔ IsFirstAfter (switchOf settings) (run.take i) diagnostic) := by
  have invariant : Remembers (switchOf settings) (run.take i)
      (Relay.after ⟨settings.rendering, (switchOf settings).once⟩
        (Relay.start ⟨settings.rendering, (switchOf settings).once⟩ {}) (run.take i)).memory :=
    .after {} (run.take i)
  have shown : Relay.shows ⟨settings.rendering, (switchOf settings).once⟩ _ diagnostic = true ↔ _ :=
    invariant.shows_iff (Diagnostic.isClassified_iff.mpr ⟨severity, known⟩)
  refine ⟨_, ?_, shown⟩
  rw [problems_relayed, observed_relayOf, if_pos once]
  exact Relay.getElem?_problems_reportAll classified h known

/-! ## Which texts are explained -/

theorem explainedAt_iff (once : settings.explain.once = true)
    (classified : ∀ diagnostic ∈ run, diagnostic.IsClassified) {text : String} :
    ExplainedAt settings run i text ↔
      ∃ diagnostic, run[i]? = some diagnostic ∧ diagnostic.message.text = text ∧
        IsFirstAfter (switchOf settings) (run.take i) diagnostic := by
  constructor
  · rintro ⟨diagnostic, problem, h, forwarded, same, block⟩
    obtain ⟨severity, known⟩ := exists_severity classified h
    obtain ⟨explained, forwarded', first⟩ := getElem?_problems_of_once once classified h known
    obtain rfl : problem = _ := Option.some.inj (forwarded.symm.trans forwarded')
    exact ⟨diagnostic, h, same, first.mp (Problem.hasBlock_ofDiagnostic_iff.mp block)⟩
  · rintro ⟨diagnostic, h, same, first⟩
    obtain ⟨severity, known⟩ := exists_severity classified h
    obtain ⟨explained, forwarded, first'⟩ := getElem?_problems_of_once once classified h known
    exact ⟨diagnostic, _, h, forwarded, same,
      Problem.hasBlock_ofDiagnostic_iff.mpr (first'.mpr first)⟩

/-- A text is explained exactly if there is a diagnostic of it that can be explained. -/
theorem exists_explainedAt_iff (once : settings.explain.once = true)
    (classified : ∀ diagnostic ∈ run, diagnostic.IsClassified) {text : String} :
    (∃ i, ExplainedAt settings run i text) ↔
      ∃ diagnostic ∈ run, IsEligible (switchOf settings) diagnostic ∧
        diagnostic.message.text = text := by
  constructor
  · rintro ⟨i, explained⟩
    obtain ⟨diagnostic, h, same, first⟩ := (explainedAt_iff once classified).mp explained
    exact ⟨diagnostic, List.mem_of_getElem? h, first.1, same⟩
  · rintro ⟨diagnostic, member, eligible, same⟩
    obtain ⟨i, h⟩ := List.getElem?_of_mem member
    obtain ⟨j, -, first, h', new, same'⟩ := eligible.exists_isFirstAfter h
    exact ⟨j, (explainedAt_iff once classified).mpr ⟨first, h', same'.trans same, new⟩⟩

theorem ExplainedAt.unique (once : settings.explain.once = true)
    (classified : ∀ diagnostic ∈ run, diagnostic.IsClassified) {text : String} {j : Nat}
    (explained : ExplainedAt settings run i text) (explained' : ExplainedAt settings run j text) :
    i = j := by
  obtain ⟨diagnostic, h, same, first⟩ := (explainedAt_iff once classified).mp explained
  obtain ⟨diagnostic', h', same', first'⟩ := (explainedAt_iff once classified).mp explained'
  have not_before := IsFirstAfter.not_lt h first.1 first' (same.trans same'.symm)
  have not_after := IsFirstAfter.not_lt h' first'.1 first (same'.trans same.symm)
  omega

/-! ## Two orders -/

variable (settings) (order : Equiv.Perm (Fin run.length))

theorem tally_relayed_reorder (classified : ∀ diagnostic ∈ run, diagnostic.IsClassified) :
    (relayed settings (reorder run order)).state.console.tally =
      (relayed settings run).state.console.tally := by
  apply Tally.ext_count
  intro severity
  rw [count_relayed settings ((forall_mem_reorder order).mpr classified),
    count_relayed settings classified, (perm_reorder order).countP_eq]

theorem exitCode_report_reorder :
    (report settings (reorder run order)).exitCode = (report settings run).exitCode := by
  simp only [exitCode_report, forall_mem_reorder]

theorem problems_reorder_of_not_once (always : settings.explain.once = false)
    (classified : ∀ diagnostic ∈ run, diagnostic.IsClassified) (i : Fin run.length) :
    ∃ problem, (relayed settings run).problems[(order i : Nat)]? = some problem ∧
      (relayed settings (reorder run order)).problems[(i : Nat)]? = some problem := by
  have h : run[(order i : Nat)]? = some run[order i] := List.getElem?_eq_getElem (order i).isLt
  obtain ⟨severity, known⟩ := exists_severity classified h
  exact ⟨_, getElem?_problems_of_not_once always classified h known,
    getElem?_problems_of_not_once always ((forall_mem_reorder order).mpr classified)
      (getElem?_reorder order i) known⟩

theorem problems_reorder_of_once (once : settings.explain.once = true)
    (classified : ∀ diagnostic ∈ run, diagnostic.IsClassified) (i : Fin run.length) :
    ∃ problem problem', (relayed settings run).problems[(order i : Nat)]? = some problem ∧
      (relayed settings (reorder run order)).problems[(i : Nat)]? = some problem' ∧
      Problem.SameUpToBlock settings.rendering run[order i] problem problem' := by
  have h : run[(order i : Nat)]? = some run[order i] := List.getElem?_eq_getElem (order i).isLt
  obtain ⟨severity, known⟩ := exists_severity classified h
  obtain ⟨explained, forwarded, -⟩ := getElem?_problems_of_once once classified h known
  obtain ⟨explained', forwarded', -⟩ :=
    getElem?_problems_of_once once ((forall_mem_reorder order).mpr classified)
      (getElem?_reorder order i) known
  have code := Severity.ofCode?_eq_some_iff.mp known
  exact ⟨_, _, forwarded, forwarded', severity, explained, explained', code, rfl, rfl⟩

/-! ## Two lists of severities -/

/-- The settings with another list of severities. -/
def withSeverities (severities : List Severity) : Settings :=
  { settings with explain := { settings.explain with severities } }

/-- The list of severities counts as a set. -/
theorem observed_withSeverities {severities : List Severity}
    (same : ∀ severity, severity ∈ severities ↔ severity ∈ settings.explain.severities)
    (run : List Diagnostic) :
    observed (relayOf (withSeverities settings severities)) run =
      observed (relayOf settings) run := by
  have switches : switchOf (withSeverities settings severities) = switchOf settings :=
    ExplainPolicy.switch_congr settings.explain.enabled same
  rw [observed_relayOf, observed_relayOf, switches]
  rfl

/-- A report is made of what can be seen of its run. -/
theorem report_eq_of_observed {settings' : Settings}
    (same : observed (relayOf settings') run = observed (relayOf settings) run) :
    report settings' run = report settings run := by
  have refusals : (relayed settings' run).refusal? = (relayed settings run).refusal? :=
    congrArg (·.2.1) same
  have consoles : (relayed settings' run).state.console = (relayed settings run).state.console :=
    congrArg (·.2.2) same
  rw [report_eq, report_eq, refusals, consoles]

/-- The order of a run of diagnostics with severities changes neither the tally nor the summary nor
the exit code. Without the restriction to one explanation per text the problems are the same in the
other order; with it, they are the same up to their explanations, and the same texts are explained,
each exactly once. The order and the repeats of the severities in the settings change nothing. -/
theorem report_reorder (settings : Settings) {run : List Diagnostic}
    (classified : ∀ diagnostic ∈ run, diagnostic.IsClassified)
    (order : Equiv.Perm (Fin run.length)) :
    let run' := reorder run order
    (relayed settings run').state.console.tally = (relayed settings run).state.console.tally ∧
    (relayed settings run').state.console.summary =
      (relayed settings run).state.console.summary ∧
    (report settings run').exitCode = (report settings run).exitCode ∧
    (relayed settings run).problems.length = run.length ∧
    (relayed settings run').problems.length = run.length ∧
    (settings.explain.once = false → ∀ i : Fin run.length,
      ∃ problem, (relayed settings run).problems[(order i : Nat)]? = some problem ∧
        (relayed settings run').problems[(i : Nat)]? = some problem) ∧
    (settings.explain.once = true →
      (∀ i : Fin run.length,
        ∃ problem problem', (relayed settings run).problems[(order i : Nat)]? = some problem ∧
          (relayed settings run').problems[(i : Nat)]? = some problem' ∧
          Problem.SameUpToBlock settings.rendering run[order i] problem problem') ∧
      (∀ text, (∃ i, ExplainedAt settings run' i text) ↔ ∃ i, ExplainedAt settings run i text) ∧
      ∀ text, (∃ i, ExplainedAt settings run i text) →
        (∃! i, ExplainedAt settings run i text) ∧ ∃! i, ExplainedAt settings run' i text) ∧
    ∀ severities, (∀ severity, severity ∈ severities ↔ severity ∈ settings.explain.severities) →
      observed (relayOf (withSeverities settings severities)) run =
          observed (relayOf settings) run ∧
        report (withSeverities settings severities) run = report settings run := by
  intro run'
  have classified' : ∀ diagnostic ∈ run', diagnostic.IsClassified :=
    (forall_mem_reorder order).mpr classified
  have tallies := tally_relayed_reorder settings order classified
  refine ⟨tallies, congrArg Tally.summary tallies, exitCode_report_reorder settings order,
    Relay.length_problems_reportAll classified, ?_, ?_, ?_, ?_⟩
  · rw [← length_reorder order]
    exact Relay.length_problems_reportAll classified'
  · intro always
    exact problems_reorder_of_not_once settings order always classified
  · intro once
    have texts : ∀ text,
        (∃ i, ExplainedAt settings run' i text) ↔ ∃ i, ExplainedAt settings run i text := by
      intro text
      rw [exists_explainedAt_iff once classified', exists_explainedAt_iff once classified]
      simp only [run', (perm_reorder order).mem_iff]
    refine ⟨problems_reorder_of_once settings order once classified, texts, ?_⟩
    intro text explained
    obtain ⟨i', explained'⟩ := (texts text).mpr explained
    obtain ⟨i, explained⟩ := explained
    exact ⟨⟨i, explained, fun j other => other.unique once classified explained⟩,
      ⟨i', explained', fun j other => other.unique once classified' explained'⟩⟩
  · intro severities same
    have observations := observed_withSeverities settings same run
    exact ⟨observations, report_eq_of_observed settings observations⟩

/-- Of two diagnostics with one text the first is explained, in either order. -/
theorem report_reorder_swap :
    let settings : Settings := { explain := { enabled := true, once := true } }
    let run : List Diagnostic :=
      [⟨1, ⟨"m", some "e"⟩, .nowhere⟩, ⟨2, ⟨"m", some "f"⟩, .nowhere⟩]
    let order : Equiv.Perm (Fin run.length) := Equiv.swap ⟨0, by decide⟩ ⟨1, by decide⟩
    (∀ diagnostic ∈ run, diagnostic.IsClassified) ∧
      (relayed settings run).problems.map (·.rendered) =
        ["Warning: m\n\nExplanation\n===========\ne", "Error: m"] ∧
      (relayed settings (reorder run order)).problems.map (·.rendered) =
        ["Error: m\n\nExplanation\n===========\nf", "Warning: m"] ∧
      (report settings (reorder run order)).exitCode = (report settings run).exitCode := by
  intro settings run order
  have classified : ∀ diagnostic ∈ run, diagnostic.IsClassified := by decide
  obtain ⟨-, -, exit, -⟩ := report_reorder settings classified order
  refine ⟨classified, ?_, ?_, exit⟩
  · decide +kernel
  · decide +kernel

end CommandLine

end DiagnosticRelay
