import DiagnosticRelay.Proofs.Rendering.Parts
import DiagnosticRelay.Proofs.Source.Line
import DiagnosticRelay.Proofs.Text.Ending

/-!
# Where the caret stands

Below the line of text stand blanks and a caret. Blanks are counted on the line with its terminator
and copied from the line without it, and a terminal moves by tabs and not by characters. Printing
the blanks all the same ends in the column in which printing the text in front of the offset ends,
whatever the distance of the tab stops: the blanks are this text with every character but the tabs
replaced by a space.
-/

namespace DiagnosticRelay

namespace Text

/-- Printing a text from a column on ends in a column. A tab goes on to the next multiple of the
width, any other character takes one column. -/
inductive PrintsTo (width : Nat) : Nat → List Char → Nat → Prop where
  | nil (column : Nat) : PrintsTo width column [] column
  | tab {column stop last : Nat} {rest : List Char} :
      IsLeast {stop | column < stop ∧ width ∣ stop} stop → PrintsTo width stop rest last →
        PrintsTo width column ('\t' :: rest) last
  | char {column last : Nat} {c : Char} {rest : List Char} :
      c ≠ '\t' → PrintsTo width (column + 1) rest last → PrintsTo width column (c :: rest) last

variable {width column last : Nat} {text : List Char}

theorem PrintsTo.unique {last' : Nat} (h : PrintsTo width column text last)
    (h' : PrintsTo width column text last') : last' = last := by
  induction h with
  | nil => cases h' with | nil => rfl
  | tab least _ ih =>
      cases h' with
      | tab least' rest =>
          rw [least'.unique least] at rest
          exact ih rest
      | char other => exact absurd rfl other
  | char other _ ih =>
      cases h' with
      | tab => exact absurd rfl other
      | char _ rest => exact ih rest

/-- The multiple of the width behind a column. -/
theorem isLeast_tabStop (positive : 0 < width) (column : Nat) :
    IsLeast {stop | column < stop ∧ width ∣ stop} ((column / width + 1) * width) := by
  refine ⟨⟨?_, Nat.dvd_mul_left width _⟩, ?_⟩
  · rw [Nat.mul_comm]
    exact Nat.lt_mul_div_succ column positive
  · rintro stop ⟨behind, times, rfl⟩
    rw [Nat.mul_comm width times] at behind ⊢
    exact Nat.mul_le_mul_right width (Nat.div_lt_of_lt_mul (Nat.mul_comm times width ▸ behind))

theorem exists_printsTo (positive : 0 < width) (column : Nat) (text : List Char) :
    ∃ last, PrintsTo width column text last := by
  induction text generalizing column with
  | nil => exact ⟨column, .nil column⟩
  | cons c rest ih =>
      by_cases tab : c = '\t'
      · obtain ⟨last, printed⟩ := ih ((column / width + 1) * width)
        exact ⟨last, tab ▸ .tab (isLeast_tabStop positive column) printed⟩
      · obtain ⟨last, printed⟩ := ih (column + 1)
        exact ⟨last, .char tab printed⟩

/-- The blanks for a text take as many columns as the text. -/
theorem PrintsTo.map_blankFor (h : PrintsTo width column text last) :
    PrintsTo width column (text.map blankFor) last := by
  induction h with
  | nil column => exact .nil column
  | tab least _ ih => exact .tab least ih
  | char other _ ih =>
      rw [List.map_cons, blankFor, if_neg other]
      exact .char (by decide) ih

/-- Behind the line that is shown, the blanks go on as if its terminator were shown. -/
theorem alignment_stripTerminator (h : column ≤ text.length) :
    alignment (stripTerminator text) column = (text.take column).map blankFor := by
  obtain ⟨ending, whole, shape⟩ := exists_stripTerminator_append text
  generalize stripTerminator text = left at *
  subst whole
  rw [List.length_append] at h
  have spaces : ∀ c ∈ ending, blankFor c = ' ' := by
    rcases shape with rfl | rfl | rfl | rfl <;> simp [blankFor]
  have rest : (ending.take (column - left.length)).map blankFor =
      List.replicate (column - left.length) ' ' := by
    rw [List.eq_replicate_iff]
    refine ⟨by simp; omega, ?_⟩
    intro blank member
    obtain ⟨c, taken, rfl⟩ := List.mem_map.mp member
    exact spaces c (List.mem_of_mem_take taken)
  rw [alignment, List.take_append, List.map_append, rest]

theorem newline_notMem_map_blankFor (text : List Char) : '\n' ∉ text.map blankFor := by
  rw [List.mem_map]
  rintro ⟨c, -, feed⟩
  rw [blankFor] at feed
  split at feed <;> exact absurd feed (by decide)

end Text

namespace SourceText

variable {text : SourceText} {offset line distance : Nat} {chars before after : List Char}

/-- The blanks stand for the text in front of the offset. -/
theorem OnLine.alignment?_eq (h : text.OnLine offset line distance chars)
    (resolved : text.source.resolved = true) (split : chars = before ++ after)
    (width : distance = Text.byteLength before) :
    (Placement.ofLocation (.within text.source offset)).alignment? =
      some (.ofList (before.map Text.blankFor)) := by
  have column : (Text.startingBefore distance chars).length = before.length := by
    rw [split, width, Text.startingBefore_byteLength_append]
  have front : chars.take before.length = before := by rw [split, List.take_left]
  have short : before.length ≤ chars.length := by
    rw [split, List.length_append]
    exact Nat.le_add_right _ _
  rw [Placement.alignment?_ofLocation, h.column?_eq resolved, h.lineText_eq, String.toList_ofList,
    Option.map_some, column, Text.alignment_stripTerminator short, front]

/-- What the plain rendering appends below its head, when it shows sources, are two lines: the line
of text and the blanks with a caret. On a terminal with tab stops at any distance, the caret stands
in the column in which the text of the line in front of the offset ends. -/
theorem caret_below_offset (text : SourceText) (resolved : text.source.resolved = true)
    {offset : Nat} (boundary : (⟨offset⟩ : String.Pos.Raw).IsValid text.content) :
    ∃ index before after line blanks,
      text.OnLine offset index (Text.byteLength before) (before ++ after) ∧
      Text.IsStripped (before ++ after) line.toList ∧
      (Placement.ofLocation (.within text.source offset)).lineText? = some line ∧
      (Placement.ofLocation (.within text.source offset)).alignment? = some blanks ∧
      (∀ message label, (Rendering.plain true).short message (.within text.source offset) label =
        (Rendering.plain false).short message (.within text.source offset) label ++
          ("\n" ++ line ++ "\n" ++ blanks ++ "^")) ∧
      ("\n" ++ line ++ "\n" ++ blanks ++ "^").toList.count '\n' = 2 ∧
      ∀ width, 0 < width → ∃ last, ∀ column,
        (Text.PrintsTo width 0 blanks.toList column ↔ column = last) ∧
          (Text.PrintsTo width 0 before column ↔ column = last) := by
  have inside : offset ≤ text.content.utf8ByteSize := by
    rw [← Text.byteLength_toList]
    exact (Text.isBoundary_toList_iff.mpr boundary).le_byteLength
  obtain ⟨index, distance, chars, h⟩ := exists_onLine inside
  obtain ⟨before, after, rfl, rfl⟩ := h.exists_split boundary
  have aligned := h.alignment?_eq resolved rfl rfl
  refine ⟨index, before, after, _, _, h, ?_, h.lineText?_eq, aligned, ?_, ?_, ?_⟩
  · rw [String.toList_ofList]
    exact Text.isStripped_stripTerminator _
  · intro message label
    rw [Rendering.short_plain, if_pos rfl, Placement.excerpt_eq h.lineText?_eq aligned]
  · have line_feeds := List.count_eq_zero.mpr (Text.newline_notMem_stripTerminator h.of_content.1)
    have blank_feeds := List.count_eq_zero.mpr (Text.newline_notMem_map_blankFor before)
    simp [line_feeds, blank_feeds]
  · intro width positive
    obtain ⟨last, printed⟩ := Text.exists_printsTo positive 0 before
    refine ⟨last, fun column => ⟨⟨?_, ?_⟩, ⟨printed.unique, ?_⟩⟩⟩
    · rw [String.toList_ofList]
      exact printed.map_blankFor.unique
    · rintro rfl
      rw [String.toList_ofList]
      exact printed.map_blankFor
    · rintro rfl
      exact printed

/-- Blanks below a tab and a character of two bytes, and the line feed of a pair behind them. -/
theorem caret_below_offset_pair :
    let text : SourceText := ⟨"Tab.scala", .memory, "x\n\té\r\n"⟩
    text.source.resolved = true ∧ (⟨6⟩ : String.Pos.Raw).IsValid text.content ∧
      ∃ index before after line blanks,
        text.OnLine 6 index (Text.byteLength before) (before ++ after) ∧
        (Placement.ofLocation (.within text.source 6)).lineText? = some line ∧
        (Placement.ofLocation (.within text.source 6)).alignment? = some blanks ∧
        ("\n" ++ line ++ "\n" ++ blanks ++ "^").toList.count '\n' = 2 ∧
        ∃ last, Text.PrintsTo 8 0 blanks.toList last ∧ Text.PrintsTo 8 0 before last := by
  intro text
  have boundary : (⟨6⟩ : String.Pos.Raw).IsValid text.content := by decide
  obtain ⟨index, before, after, line, blanks, h, -, shown, aligned, -, feeds, printed⟩ :=
    caret_below_offset text rfl boundary
  obtain ⟨last, ends⟩ := printed 8 (by decide)
  exact ⟨rfl, boundary, index, before, after, line, blanks, h, shown, aligned, feeds, last,
    (ends last).1.mpr rfl, (ends last).2.mpr rfl⟩

end SourceText

end DiagnosticRelay
