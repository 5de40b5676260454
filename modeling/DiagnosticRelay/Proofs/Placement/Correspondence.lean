import DiagnosticRelay.Placement
import DiagnosticRelay.Proofs.Source.Lookup

/-!
# Offsets and their placements

In a source text that can be resolved, the offsets between characters and the pairs of line number
and column correspond one to one, and in the same order. A line and a column come back to the
offset by adding up the lines above and the characters in front. The lines are those of the text;
that the index cuts the text into them is a part of the statement.
-/

namespace DiagnosticRelay

namespace SourceText

/-- The lines of the text, each with its terminator. -/
def lines (text : SourceText) : List (List Char) :=
  Text.lines text.content.toList

/-- The index cuts the text into its lines. -/
theorem cutAt_starts (text : SourceText) :
    Text.cutAt text.content.toList text.index.starts.toList = text.lines :=
  Text.cutAt_lineStarts text.content.toList

theorem flatten_lines (text : SourceText) : text.lines.flatten = text.content.toList :=
  Text.flatten_lines text.content.toList

/-- The lines have the boundaries of the text. -/
theorem isBoundary_lines_iff {text : SourceText} {offset : Nat} :
    Text.IsBoundary text.lines.flatten offset ↔
      (⟨offset⟩ : String.Pos.Raw).IsValid text.content := by
  rw [flatten_lines, Text.isBoundary_toList_iff]

/-- An offset that cuts no character in two and lies on a line that has a number. -/
def IsNumbered (text : SourceText) (offset : Nat) : Prop :=
  (⟨offset⟩ : String.Pos.Raw).IsValid text.content ∧
    ∃ index, text.source.lineAt? offset = some index ∧ index + 1 ≤ maxLine

/-- A line number and a column at which there is a character, or the end of the text. -/
def HasPlace (text : SourceText) (line column : Nat) : Prop :=
  1 ≤ line ∧ line ≤ maxLine ∧ ∃ chars, text.lines[line - 1]? = some chars ∧
    (column < chars.length ∨ (line = text.lines.length ∧ column = chars.length))

/-- The bytes of the lines above and of the characters in front, for a line that counts from one. -/
def offsetOf (text : SourceText) (line column : Nat) : Nat :=
  Text.byteLength (text.lines.take (line - 1)).flatten +
    Text.byteLength ((text.lines[line - 1]?.getD []).take column)

/-- The placement of an offset has this line and this column. -/
def PlacedAt (text : SourceText) (offset line column : Nat) : Prop :=
  (Placement.ofLocation (.within text.source offset)).line? = some line ∧
    (Placement.ofLocation (.within text.source offset)).column? = some column

end SourceText

namespace Placement

theorem lineNumber?_natCast (index : Nat) :
    lineNumber? index = if index + 1 ≤ maxLine then some (index + 1) else none := by
  have same : (0 ≤ (index : Int) + 1 ∧ (index : Int) + 1 ≤ maxLine) ↔ index + 1 ≤ maxLine := by
    omega
  simp only [lineNumber?, same]
  rfl

/-- The line number is that of the source's line, if it is small enough. -/
theorem line?_ofLocation_within (source : Source) (offset : Nat) :
    (ofLocation (.within source offset)).line? =
      (source.lineAt? offset).bind fun index =>
        if index + 1 ≤ maxLine then some (index + 1) else none := by
  change lineNumber? (Location.line _) = _
  cases found : source.lineAt? offset with
  | none =>
      rw [Location.line, found]
      rfl
  | some index =>
      simp only [Location.line, found, Option.bind_some]
      by_cases known : index ≤ maxLine
      · rw [if_pos known, lineNumber?_natCast]
      · rw [if_neg known, if_neg (fun small => known (Nat.le_of_succ_le small))]
        rfl

theorem column?_ofLocation_within {source : Source} (resolved : source.resolved = true)
    (offset : Nat) :
    (ofLocation (.within source offset)).column? = columnIn? source offset := by
  simp [ofLocation, resolved]

end Placement

namespace SourceText

variable {text : SourceText} {offset line column : Nat}

theorem lineAt?_placeOffset (place : Text.IsPlace text.lines line column) :
    text.source.lineAt? (Text.placeOffset text.lines line column) = some line := by
  rw [lines] at place ⊢
  exact LineIndex.lineAt?_placeOffset place

/-- The column of a place counts the characters in front of it. -/
theorem columnIn?_placeOffset (place : Text.IsPlace text.lines line column) :
    Placement.columnIn? text.source (Text.placeOffset text.lines line column) = some column := by
  rw [Placement.columnIn?, lineAt?_placeOffset place, Option.map_some, Option.some.injEq]
  rw [lines] at place ⊢
  have ⟨chars, hchars, hcolumn⟩ := place
  rw [source_lineStart, toList_source_lineText, index, LineIndex.lineStart_placeOffset place,
    LineIndex.lineText_placeOffset place hchars, Text.placeOffset, Nat.add_sub_cancel_left, hchars,
    Option.getD_some, Text.startingBefore_byteLength_take, List.length_take]
  omega

theorem hasPlace_iff :
    text.HasPlace line column ↔
      1 ≤ line ∧ line ≤ maxLine ∧ Text.IsPlace text.lines (line - 1) column := by
  simp only [HasPlace, Text.IsPlace]
  constructor
  · rintro ⟨hpos, hmax, chars, hchars, hcolumn⟩
    exact ⟨hpos, hmax, chars, hchars, by omega⟩
  · rintro ⟨hpos, hmax, chars, hchars, hcolumn⟩
    exact ⟨hpos, hmax, chars, hchars, by omega⟩

/-- An offset with a number is that of a place, and placed there. -/
theorem exists_hasPlace (h : text.IsNumbered offset) :
    ∃ line column, text.HasPlace line column ∧ offset = text.offsetOf line column := by
  obtain ⟨valid, index, hindex, hmax⟩ := h
  have nonempty : text.lines ≠ [] := Text.lines_ne_nil text.content.toList
  obtain ⟨line, column, place, rfl⟩ :=
    Text.exists_isPlace nonempty (isBoundary_lines_iff.mpr valid)
  have same : line = index := Option.some.inj ((lineAt?_placeOffset place).symm.trans hindex)
  refine ⟨line + 1, column, hasPlace_iff.mpr ⟨Nat.le_add_left 1 line, same ▸ hmax, place⟩, rfl⟩

/-- The offset of a place has a number and is placed there. -/
theorem placedAt_offsetOf (resolved : text.source.resolved = true)
    (h : text.HasPlace line column) :
    text.IsNumbered (text.offsetOf line column) ∧
      text.PlacedAt (text.offsetOf line column) line column := by
  obtain ⟨hpos, hmax, place⟩ := hasPlace_iff.mp h
  have number : line - 1 + 1 = line := Nat.sub_add_cancel hpos
  have found : text.source.lineAt? (text.offsetOf line column) = some (line - 1) :=
    lineAt?_placeOffset place
  refine ⟨⟨?_, line - 1, found, by rw [number]; exact hmax⟩, ?_, ?_⟩
  · exact isBoundary_lines_iff.mp place.isBoundary
  · rw [Placement.line?_ofLocation_within, found, Option.bind_some, number, if_pos hmax]
  · rw [Placement.column?_ofLocation_within resolved]
    exact columnIn?_placeOffset place

/-- The only place at which an offset is placed is the one that it is the offset of. -/
theorem hasPlace_of_placedAt (resolved : text.source.resolved = true)
    (h : text.IsNumbered offset) (placed : text.PlacedAt offset line column) :
    text.HasPlace line column ∧ offset = text.offsetOf line column := by
  obtain ⟨line', column', place, rfl⟩ := exists_hasPlace h
  obtain ⟨-, placed'⟩ := placedAt_offsetOf resolved place
  obtain rfl : line' = line := Option.some.inj (placed'.1.symm.trans placed.1)
  obtain rfl : column' = column := Option.some.inj (placed'.2.symm.trans placed.2)
  exact ⟨place, rfl⟩

theorem offsetOf_lt_iff {line' column' : Nat} (h : text.HasPlace line column)
    (h' : text.HasPlace line' column') :
    text.offsetOf line column < text.offsetOf line' column' ↔
      line < line' ∨ (line = line' ∧ column < column') := by
  obtain ⟨hpos, -, place⟩ := hasPlace_iff.mp h
  obtain ⟨hpos', -, place'⟩ := hasPlace_iff.mp h'
  have order := Text.placeOffset_lt_iff place place'
  rw [show line < line' ↔ line - 1 < line' - 1 by omega,
    show line = line' ↔ line - 1 = line' - 1 by omega]
  exact order

/-- The index cuts the text into its lines. If the text can be resolved, every numbered offset is
placed at exactly one place, whose offset it is; the order of offsets is the order of places by line
and column; and every place is reached from its offset. -/
theorem placement_correspondence (text : SourceText) (resolved : text.source.resolved = true) :
    Text.cutAt text.content.toList text.index.starts.toList = text.lines ∧
    (∀ offset, text.IsNumbered offset →
      ∃ line column, text.PlacedAt offset line column ∧ text.HasPlace line column) ∧
    (∀ offset line column, text.IsNumbered offset → text.PlacedAt offset line column →
      offset = text.offsetOf line column) ∧
    (∀ offset offset' line line' column column',
      text.IsNumbered offset → text.IsNumbered offset' →
      text.PlacedAt offset line column → text.PlacedAt offset' line' column' →
      (offset < offset' ↔ line < line' ∨ (line = line' ∧ column < column'))) ∧
    (∀ line column, text.HasPlace line column →
      text.IsNumbered (text.offsetOf line column) ∧
        text.PlacedAt (text.offsetOf line column) line column) := by
  refine ⟨text.cutAt_starts, ?_, ?_, ?_, ?_⟩
  · intro offset h
    obtain ⟨line, column, place, rfl⟩ := exists_hasPlace h
    exact ⟨line, column, (placedAt_offsetOf resolved place).2, place⟩
  · intro offset line column h placed
    exact (hasPlace_of_placedAt resolved h placed).2
  · intro offset offset' line line' column column' h h' placed placed'
    obtain ⟨place, rfl⟩ := hasPlace_of_placedAt resolved h placed
    obtain ⟨place', rfl⟩ := hasPlace_of_placedAt resolved h' placed'
    exact offsetOf_lt_iff place place'
  · intro line column place
    exact placedAt_offsetOf resolved place

/-- The line feed of a terminator has a column of its own, behind a character of two bytes. -/
theorem placement_correspondence_line_feed :
    let text : SourceText := ⟨"Win.scala", .disk, "é\r\n\tb"⟩
    text.source.resolved = true ∧ text.HasPlace 1 2 ∧ text.offsetOf 1 2 = 3 ∧
      text.PlacedAt 3 1 2 := by
  intro text
  have place : text.HasPlace 1 2 :=
    ⟨by decide, by decide, ['é', '\r', '\n'], by decide +kernel, Or.inl (by decide)⟩
  have offset : text.offsetOf 1 2 = 3 := by decide +kernel
  obtain ⟨-, -, -, -, back⟩ := placement_correspondence text rfl
  exact ⟨rfl, place, offset, offset ▸ (back 1 2 place).2⟩

end SourceText

end DiagnosticRelay
