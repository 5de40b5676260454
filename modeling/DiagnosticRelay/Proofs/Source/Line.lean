import DiagnosticRelay.Proofs.Source.Scan
import DiagnosticRelay.Proofs.Text.Rounding

/-!
# Offsets as distances on lines

Every offset of a text lies at one distance in bytes from the beginning of one line, inside
characters as well. The answers of a source text about the offset can be read off the line and the
distance.
-/

namespace DiagnosticRelay

/-- A distance on a line does not leave it, and reaches its end only if no line follows. -/
theorem Text.IsBytePlace.distance_lt {lines : List (List Char)} {line distance : Nat}
    {chars : List Char} (place : IsBytePlace lines line distance)
    (hchars : lines[line]? = some chars) :
    distance < byteLength chars ∨ (line + 1 = lines.length ∧ distance ≤ byteLength chars) := by
  obtain ⟨chars', hchars', hdistance⟩ := place
  obtain rfl := Option.some.inj (hchars.symm.trans hchars')
  exact hdistance

namespace SourceText

variable {text : SourceText} {offset line distance : Nat} {chars : List Char}

/-- An offset at a distance from the beginning of a line, which has the given characters. -/
structure OnLine (text : SourceText) (offset line distance : Nat) (chars : List Char) : Prop where
  getElem?_lines : text.lines[line]? = some chars
  /-- The end of a line is on it only if no line follows. -/
  isBytePlace : Text.IsBytePlace text.lines line distance
  offset_eq : offset = Text.byteLength (text.lines.take line).flatten + distance

theorem exists_onLine (inside : offset ≤ text.content.utf8ByteSize) :
    ∃ line distance chars, text.OnLine offset line distance chars := by
  obtain ⟨line, distance, found⟩ := text.exists_lineColumn? inside
  obtain ⟨place, start, hstart, hoffset⟩ := lineColumn?_eq_some_iff.mp found
  have ⟨chars, hchars, _⟩ := place
  have hline := (List.getElem?_eq_some_iff.mp hchars).1
  rw [lines] at hline
  have starts : text.index.starts.toList[line]? = _ := Text.getElem?_lineStarts hline
  rw [starts, Option.some.injEq, ← lines] at hstart
  exact ⟨line, distance, chars, hchars, place, hstart ▸ hoffset⟩

namespace OnLine

/-- The line is one that the content of the text is cut into. -/
theorem of_content (h : text.OnLine offset line distance chars) :
    (Text.lines text.content.toList)[line]? = some chars ∧
      Text.IsBytePlace (Text.lines text.content.toList) line distance := by
  rw [← lines]
  exact ⟨h.getElem?_lines, h.isBytePlace⟩

theorem getElem?_starts (h : text.OnLine offset line distance chars) :
    text.index.starts.toList[line]? = some (offset - distance) := by
  have hline := (List.getElem?_eq_some_iff.mp h.of_content.1).1
  rw [h.offset_eq, Nat.add_sub_cancel, lines]
  exact Text.getElem?_lineStarts hline

theorem distance_le (h : text.OnLine offset line distance chars) : distance ≤ offset :=
  h.offset_eq ▸ Nat.le_add_left ..

theorem lineColumn?_eq (h : text.OnLine offset line distance chars) :
    text.index.lineColumn? offset = some (line, distance) :=
  lineColumn?_eq_some_iff.mpr
    ⟨h.isBytePlace, _, h.getElem?_starts, (Nat.sub_add_cancel h.distance_le).symm⟩

/-- An offset lies on one line only. -/
theorem unique {line' distance' : Nat} {chars' : List Char}
    (h : text.OnLine offset line distance chars) (h' : text.OnLine offset line' distance' chars') :
    line' = line ∧ distance' = distance ∧ chars' = chars := by
  obtain ⟨rfl, rfl⟩ : line' = line ∧ distance' = distance := by
    simpa using h'.lineColumn?_eq.symm.trans h.lineColumn?_eq
  exact ⟨rfl, rfl, Option.some.inj (h'.getElem?_lines.symm.trans h.getElem?_lines)⟩

theorem content_eq (h : text.OnLine offset line distance chars) :
    text.content.toList =
      (text.lines.take line).flatten ++ (chars ++ (text.lines.drop (line + 1)).flatten) := by
  rw [← Text.flatten_eq_take_append h.getElem?_lines, flatten_lines]

theorem distance_le_byteLength (h : text.OnLine offset line distance chars) :
    distance ≤ Text.byteLength chars := by
  rcases h.isBytePlace.distance_lt h.getElem?_lines with inside | ⟨-, inside⟩
  · exact Nat.le_of_lt inside
  · exact inside

/-- An offset between characters splits its line there. -/
theorem exists_split (h : text.OnLine offset line distance chars)
    (boundary : (⟨offset⟩ : String.Pos.Raw).IsValid text.content) :
    ∃ before after, chars = before ++ after ∧ distance = Text.byteLength before := by
  apply Text.isBoundary_of_flatten h.getElem?_lines h.distance_le_byteLength
  rw [← h.offset_eq]
  exact isBoundary_lines_iff.mpr boundary

/-! ## The answers of the source -/

theorem lineAt?_eq (h : text.OnLine offset line distance chars) :
    text.source.lineAt? offset = some line := by
  obtain ⟨line', found, place⟩ := Option.map_eq_some_iff.mp h.lineColumn?_eq
  rw [source_lineAt?, found, (Prod.mk.inj place).1]

theorem lineText_eq (h : text.OnLine offset line distance chars) :
    text.source.lineText offset = .ofList chars := by
  have found := (text.scannedAt offset).line_text line h.lineAt?_eq
  rw [h.getElem?_lines, Option.some.injEq] at found
  rw [found, String.ofList_toList]

/-- The source measures the distance from the beginning of the line as it is. -/
theorem sub_lineStart_eq (h : text.OnLine offset line distance chars) :
    offset - text.source.lineStart offset = distance := by
  obtain ⟨line', found, place⟩ := Option.map_eq_some_iff.mp h.lineColumn?_eq
  exact (Prod.mk.inj place).2

/-! ## The placement -/

theorem lineText?_eq (h : text.OnLine offset line distance chars) :
    (Placement.ofLocation (.within text.source offset)).lineText? =
      some (.ofList (Text.stripTerminator chars)) := by
  change some (String.ofList (Text.stripTerminator (text.source.lineText offset).toList)) = _
  rw [h.lineText_eq, String.toList_ofList]

theorem column?_eq (h : text.OnLine offset line distance chars)
    (resolved : text.source.resolved = true) :
    (Placement.ofLocation (.within text.source offset)).column? =
      some (Text.startingBefore distance chars).length := by
  rw [Placement.column?_ofLocation_within resolved, Placement.columnIn?, h.lineAt?_eq,
    Option.map_some, h.sub_lineStart_eq, h.lineText_eq, String.toList_ofList]

end OnLine

end SourceText

end DiagnosticRelay
