import DiagnosticRelay.Proofs.Placement.Fields
import DiagnosticRelay.Proofs.Relay.Run
import Mathlib.Algebra.Group.Nat.Defs

/-!
# The parts of a plain text

The plain rendering places a diagnostic on its own, and so does the relay. Both find the same, so
the text of a problem can be told from the problem: a head and a block with the line of text, which
its placement, message and severity determine, and behind them the explanation, if it is shown.
`HasHeading` and `HasExcerpt` say what the placement contributes, and they know of no column that
stands in for a missing one. Whether sources are shown makes a difference to the block only.
-/

namespace DiagnosticRelay

/-! ## What a placement contributes -/

namespace Placement

/-- The place in front of a message. A line is named together with a column. -/
inductive HasHeading (placement : Placement) : String → Prop where
  | column {path : String} {line column : Nat} : placement.path? = some path →
      placement.line? = some line → placement.column? = some column →
        HasHeading placement s!"{path}:{line}:{column + 1}: "
  | path {path : String} : placement.path? = some path → placement.line? = none →
      HasHeading placement s!"{path}: "
  | nothing : placement.path? = none → HasHeading placement ""

/-- The line of text and the caret below it. They are there together with the column. -/
inductive HasExcerpt (placement : Placement) : String → Prop where
  | caret {line blanks : String} {column : Nat} : placement.column? = some column →
      placement.lineText? = some line → placement.alignment? = some blanks →
        HasExcerpt placement ("\n" ++ line ++ "\n" ++ blanks ++ "^")
  | nothing : placement.column? = none → HasExcerpt placement ""

theorem HasHeading.unique {placement : Placement} {heading heading' : String}
    (h : placement.HasHeading heading) (h' : placement.HasHeading heading') :
    heading' = heading := by
  -- The kinds of headings exclude each other, and each one is made of the fields that it needs.
  cases h <;> cases h' <;> simp_all

theorem HasExcerpt.unique {placement : Placement} {excerpt excerpt' : String}
    (h : placement.HasExcerpt excerpt) (h' : placement.HasExcerpt excerpt') :
    excerpt' = excerpt := by
  cases h <;> cases h' <;> simp_all

theorem HasExcerpt.ne_empty_iff {placement : Placement} {excerpt : String}
    (h : placement.HasExcerpt excerpt) : excerpt ≠ "" ↔ placement.column?.isSome := by
  cases h with
  | caret column => simp [column]
  | nothing none => simp [none]

/-- Where a path and a line are known, the column is known as well. -/
theorem exists_column?_ofLocation {location : Location}
    (path : (ofLocation location).path?.isSome) (line : (ofLocation location).line?.isSome) :
    ∃ column, (ofLocation location).column? = some column := by
  cases location with
  | nowhere => cases path
  | within source offset =>
      have described := describes_ofLocation source offset
      obtain ⟨number, numbered⟩ := Option.isSome_iff_exists.mp line
      obtain ⟨-, -, found⟩ := (described.line_iff number).mp numbered
      rw [described.path_eq] at path
      apply Option.isSome_iff_exists.mp
      rw [described.column_isSome_iff, found]
      exact ⟨by simpa using path, rfl⟩

theorem hasHeading_ofLocation (location : Location) :
    (ofLocation location).HasHeading (ofLocation location).heading := by
  cases path : (ofLocation location).path? with
  | none =>
      rw [heading, path]
      exact .nothing path
  | some name =>
      cases line : (ofLocation location).line? with
      | none =>
          rw [heading, path, line]
          exact .path path line
      | some number =>
          obtain ⟨column, known⟩ :=
            exists_column?_ofLocation (by rw [path]; rfl) (by rw [line]; rfl)
          rw [heading, path, line, known]
          exact .column path line known

theorem excerpt_eq {placement : Placement} {line blanks : String}
    (shown : placement.lineText? = some line) (aligned : placement.alignment? = some blanks) :
    placement.excerpt = "\n" ++ line ++ "\n" ++ blanks ++ "^" := by
  rw [excerpt, shown, aligned]
  rfl

theorem hasExcerpt_ofLocation (location : Location) :
    (ofLocation location).HasExcerpt (ofLocation location).excerpt := by
  cases location with
  | nowhere => exact .nothing rfl
  | within source offset =>
      cases column : (ofLocation (.within source offset)).column? with
      | none =>
          have aligned : (ofLocation (.within source offset)).alignment? = none := by
            rw [alignment?_ofLocation, column, Option.map_none]
          rw [excerpt, aligned]
          exact .nothing column
      | some number =>
          obtain ⟨blanks, aligned⟩ : ∃ blanks,
              (ofLocation (.within source offset)).alignment? = some blanks := by
            rw [alignment?_ofLocation, column, Option.map_some]
            exact ⟨_, rfl⟩
          rw [excerpt_eq rfl aligned]
          exact .caret column rfl aligned

theorem column?_le_utf8ByteSize {location : Location} {column : Nat}
    (h : (ofLocation location).column? = some column) :
    column ≤ location.lineText.utf8ByteSize := by
  cases location with
  | nowhere => cases h
  | within source offset =>
      rw [Location.lineText, ← Text.byteLength_toList]
      exact Nat.le_trans ((describes_ofLocation source offset).column_le_length column h)
        (Text.length_le_byteLength _)

end Placement

/-! ## The text of a problem -/

/-- Showing sources appends to the short text, and leaves what is in front as it is. -/
theorem Rendering.short_plain (showSource : Bool) (message : Message) (location : Location)
    (label : String) :
    (plain showSource).short message location label =
      (plain false).short message location label ++
        if showSource then (Placement.ofLocation location).excerpt else "" := by
  cases showSource with
  | false => exact String.append_empty.symm
  | true => rfl

/-- The block that explains a message, if it is shown. -/
def Message.explanationBlock (message : Message) (shown : Bool) : String :=
  if shown then "\n\nExplanation\n===========\n" ++ message.explanation else ""

namespace Problem

/-- The head of a text and the block with the line of text, if sources are shown. The placement,
the message and the severity of the problem are all that is needed to tell them. -/
structure HasFront (problem : Problem) (showSource : Bool) (head block : String) : Prop where
  head_eq : ∃ heading, problem.placement.HasHeading heading ∧
    head = s!"{heading}{problem.severity.label}: {problem.message}"
  block_eq : if showSource then problem.placement.HasExcerpt block else block = ""

variable {problem problem' : Problem} {showSource : Bool} {head head' block block' : String}

theorem HasFront.unique (placement : problem'.placement = problem.placement)
    (message : problem'.message = problem.message) (severity : problem'.severity = problem.severity)
    (h : problem.HasFront showSource head block) (h' : problem'.HasFront showSource head' block') :
    head' = head ∧ block' = block := by
  obtain ⟨⟨heading, named, rfl⟩, shown⟩ := h
  obtain ⟨⟨heading', named', rfl⟩, shown'⟩ := h'
  rw [placement] at named' shown'
  refine ⟨?_, ?_⟩
  · rw [named.unique named', message, severity]
  · cases showSource with
    | false => exact (shown' : block' = "").trans (shown : block = "").symm
    | true => exact Placement.HasExcerpt.unique shown shown'

/-- The block is there exactly if sources are shown and the column is known. -/
theorem HasFront.block_ne_empty_iff (h : problem.HasFront showSource head block) :
    block ≠ "" ↔ showSource = true ∧ problem.placement.column?.isSome := by
  have shown := h.block_eq
  cases showSource with
  | false => simpa using shown
  | true =>
      rw [eq_self, true_and]
      exact Placement.HasExcerpt.ne_empty_iff shown

variable (diagnostic : Diagnostic) (severity : Severity)

/-- The head of the text that the plain rendering makes of a diagnostic. -/
def headOf : String :=
  let heading := (Placement.ofLocation diagnostic.location).heading
  s!"{heading}{severity.label}: {diagnostic.message.text}"

/-- What a diagnostic becomes has a front, which the plain rendering writes. -/
theorem hasFront_ofDiagnostic (showSource explained : Bool) :
    (ofDiagnostic (.plain showSource) diagnostic severity explained).HasFront showSource
      (headOf diagnostic severity)
      (if showSource then (Placement.ofLocation diagnostic.location).excerpt else "") where
  head_eq := ⟨_, Placement.hasHeading_ofLocation diagnostic.location, rfl⟩
  block_eq := by
    cases showSource with
    | false => rfl
    | true => exact Placement.hasExcerpt_ofLocation diagnostic.location

theorem rendered_ofDiagnostic (showSource explained : Bool) :
    (ofDiagnostic (.plain showSource) diagnostic severity explained).rendered =
      headOf diagnostic severity ++
        (if showSource then (Placement.ofLocation diagnostic.location).excerpt else "") ++
        diagnostic.message.explanationBlock explained := by
  have short : (ofDiagnostic (.plain showSource) diagnostic severity false).rendered =
      headOf diagnostic severity ++
        if showSource then (Placement.ofLocation diagnostic.location).excerpt else "" :=
    Rendering.short_plain showSource diagnostic.message diagnostic.location severity.label
  rw [← short]
  cases explained with
  | false => exact String.append_empty.symm
  | true => rfl

end Problem

/-! ## Runs -/

namespace Relay

/-- Two results of which the second is the first without the block with the line of text. -/
inductive LosesBlock : Except BadCode Problem → Except BadCode Problem → Prop where
  | refused (bad : BadCode) : LosesBlock (.error bad) (.error bad)
  | forwarded {problem : Problem} {head block tail : String} :
      problem.HasFront true head block → problem.rendered = head ++ block ++ tail →
        LosesBlock (.ok problem) (.ok { problem with rendered := head ++ tail })

variable {σ : Type} (policy : ExplainPolicy σ)

/-- The relay that renders plainly. -/
def plain (showSource : Bool) : Relay σ :=
  ⟨.plain showSource, policy⟩

theorem losesBlock_ofDiagnostic (diagnostic : Diagnostic) (severity : Severity)
    (explained : Bool) :
    LosesBlock (.ok (.ofDiagnostic (.plain true) diagnostic severity explained))
      (.ok (.ofDiagnostic (.plain false) diagnostic severity explained)) := by
  have hidden : Problem.ofDiagnostic (.plain false) diagnostic severity explained =
      { Problem.ofDiagnostic (.plain true) diagnostic severity explained with
        rendered := Problem.headOf diagnostic severity ++
          diagnostic.message.explanationBlock explained } := by
    have text := Problem.rendered_ofDiagnostic diagnostic severity false explained
    rw [if_neg Bool.false_ne_true, String.append_empty] at text
    rw [← text]
    rfl
  rw [hidden]
  exact .forwarded (Problem.hasFront_ofDiagnostic diagnostic severity true explained)
    (Problem.rendered_ofDiagnostic diagnostic severity true explained)

/-- Whether sources are shown, the policy is asked the same questions in the same states, so
every problem of a run loses its block and nothing else. -/
theorem forall₂_losesBlock {state state' : State σ} (memory : state'.memory = state.memory)
    (run : List Diagnostic) :
    List.Forall₂ LosesBlock ((plain policy true).reportEach state run)
      ((plain policy false).reportEach state' run) := by
  induction run generalizing state state' with
  | nil => exact .nil
  | cons diagnostic rest ih =>
      rw [reportEach, reportEach]
      cases known : Severity.ofCode? diagnostic.code with
      | none =>
          rw [report_of_no_severity known, report_of_no_severity known, next_of_no_severity known,
            next_of_no_severity known]
          exact .cons (.refused _) (ih memory)
      | some severity =>
          rw [report_of_severity known, report_of_severity known, next_of_severity known,
            next_of_severity known, plain, plain, memory]
          exact .cons (losesBlock_ofDiagnostic diagnostic severity _) (ih rfl)

/-- The parts of the text of a problem that is forwarded. -/
theorem exists_parts_of_report {showSource : Bool} {state after : State σ} {diagnostic : Diagnostic}
    {problem : Problem}
    (h : (plain policy showSource).report state diagnostic = (.ok problem, after)) :
    problem.placement = .ofLocation diagnostic.location ∧
      problem.message = diagnostic.message.text ∧ problem.severity.code = diagnostic.code ∧
      ∃ head block, problem.HasFront showSource head block ∧
        problem.rendered = head ++ block ++ diagnostic.message.explanationBlock
          ((policy.ask state.memory diagnostic).1 && diagnostic.message.hasExplanation) := by
  cases known : Severity.ofCode? diagnostic.code with
  | none =>
      rw [report_of_no_severity known] at h
      exact nomatch congrArg Prod.fst h
  | some severity =>
      rw [report_of_severity known] at h
      obtain rfl := Except.ok.inj (congrArg Prod.fst h)
      exact ⟨rfl, rfl, (Severity.ofCode?_eq_some_iff.mp known).symm, _, _,
        Problem.hasFront_ofDiagnostic diagnostic severity showSource _,
        Problem.rendered_ofDiagnostic diagnostic severity showSource _⟩

/-- Whatever the sources and the policy answer, a problem with a plain text has a head, a block if
sources are shown and its column is known, and behind them the explanation if the policy lets it be
shown. The head never has to do without a column that it names, and a column of a line that fits
into memory can be counted from one. Not to show sources takes the block out of every problem of a
run and changes nothing else. Problems with equal placements, messages and severities have equal
heads and blocks, whatever the sources of their diagnostics are. -/
theorem plain_texts_have_parts (policy : ExplainPolicy σ) :
    (∀ (showSource : Bool) (state : State σ) (diagnostic : Diagnostic),
      diagnostic.IsClassified → ∃ problem after head block,
        (plain policy showSource).report state diagnostic = (.ok problem, after) ∧
        problem.placement = .ofLocation diagnostic.location ∧
        problem.message = diagnostic.message.text ∧ problem.severity.code = diagnostic.code ∧
        problem.HasFront showSource head block ∧
        (block ≠ "" ↔ showSource = true ∧ problem.placement.column?.isSome) ∧
        problem.rendered = head ++ block ++ diagnostic.message.explanationBlock
          ((policy.ask state.memory diagnostic).1 && diagnostic.message.hasExplanation)) ∧
    (∀ location : Location, let placement := Placement.ofLocation location
      (placement.path?.isSome → placement.line?.isSome →
        ∃ column, placement.column? = some column) ∧
      ∀ column, placement.column? = some column →
        location.lineText.utf8ByteSize < 2 ^ 63 → column + 1 < 2 ^ 64) ∧
    (∀ (state : State σ) (run : List Diagnostic),
      List.Forall₂ LosesBlock ((plain policy true).reportEach state run)
        ((plain policy false).reportEach state run)) ∧
    ∀ (showSource : Bool) (state state' after after' : State σ)
      (diagnostic diagnostic' : Diagnostic) (problem problem' : Problem),
      (plain policy showSource).report state diagnostic = (.ok problem, after) →
      (plain policy showSource).report state' diagnostic' = (.ok problem', after') →
      problem'.placement = problem.placement → problem'.message = problem.message →
      problem'.severity = problem.severity → ∃ head block shown shown',
        problem.HasFront showSource head block ∧ problem'.HasFront showSource head block ∧
        problem.rendered = head ++ block ++ diagnostic.message.explanationBlock shown ∧
        problem'.rendered = head ++ block ++ diagnostic'.message.explanationBlock shown' := by
  refine ⟨?_, ?_, ?_, ?_⟩
  · intro showSource state diagnostic classified
    obtain ⟨severity, known⟩ := Diagnostic.isClassified_iff.mp classified
    have forwarded :=
      @report_of_severity σ (plain policy showSource) state diagnostic severity known
    obtain ⟨placed, named, graded, head, block, front, text⟩ :=
      exists_parts_of_report policy forwarded
    exact ⟨_, _, head, block, forwarded, placed, named, graded, front, front.block_ne_empty_iff,
      text⟩
  · intro location placement
    refine ⟨Placement.exists_column?_ofLocation, ?_⟩
    intro column known small
    have bound := Placement.column?_le_utf8ByteSize known
    omega
  · intro state run
    exact forall₂_losesBlock policy rfl run
  · intro showSource state state' after after' diagnostic diagnostic' problem problem' h h'
      placement message severity
    obtain ⟨-, -, -, head, block, front, text⟩ := exists_parts_of_report policy h
    obtain ⟨-, -, -, head', block', front', text'⟩ := exists_parts_of_report policy h'
    obtain ⟨rfl, rfl⟩ := front.unique placement message severity front'
    exact ⟨_, _, _, _, front, front', text, text'⟩

end Relay

end DiagnosticRelay
