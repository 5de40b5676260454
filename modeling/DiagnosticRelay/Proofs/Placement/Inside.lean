import DiagnosticRelay.Proofs.Placement.Fields
import DiagnosticRelay.Proofs.Source.Line
import DiagnosticRelay.Proofs.Text.Ending

/-!
# Offsets inside characters

An offset may cut a character of several bytes in two. It is placed where the next boundary is
placed, at the character that follows or at the end of the text. Such a boundary is always on the
same line: a line ends behind a character of one byte, which no offset cuts.
-/

namespace DiagnosticRelay

/-- The next boundary is on the same line. -/
theorem Text.IsBytePlace.roundUp {text chars : List Char} {line distance : Nat}
    (place : IsBytePlace (lines text) line distance) (hchars : (lines text)[line]? = some chars) :
    IsBytePlace (lines text) line (byteLength (startingBefore distance chars)) := by
  refine ⟨chars, hchars, ?_⟩
  rcases body_of_getElem?_lines hchars with ⟨last, -⟩ | ⟨more, body, ending, rfl, -, ends⟩
  · exact .inr ⟨last, byteLength_startingBefore_le distance chars⟩
  · -- The last character has one byte, so an offset on the line is not behind its beginning.
    obtain ⟨front, last, rfl, size⟩ := ends.exists_concat
    have inside := place.distance_lt hchars
    rw [← List.append_assoc, byteLength_append, byteLength_cons, byteLength_nil, size] at inside
    have before_last : distance ≤ byteLength (body ++ front) := by omega
    have rounded := byteLength_startingBefore_append_le before_last [last]
    rw [← List.append_assoc, byteLength_append, byteLength_cons, byteLength_nil, size]
    exact .inl (by omega)

/-- A placement depends on the offset through the line and the characters in front only. -/
theorem Placement.ofLocation_congr {source : Source} {offset offset' : Nat}
    (line : source.lineAt? offset = source.lineAt? offset')
    (chars : source.lineText offset = source.lineText offset')
    (front : Text.startingBefore (offset - source.lineStart offset)
        (source.lineText offset).toList =
      Text.startingBefore (offset' - source.lineStart offset') (source.lineText offset').toList) :
    ofLocation (.within source offset) =
      { ofLocation (.within source offset') with offset? := some offset } := by
  have column : columnIn? source offset = columnIn? source offset' := by
    rw [columnIn?, columnIn?, line, front]
  have number : (Location.within source offset).line = (Location.within source offset').line := by
    rw [Location.line, Location.line, line]
  simp only [ofLocation, column, number, chars]

namespace SourceText

variable {text : SourceText} {offset line distance next : Nat} {chars : List Char}

/-- The offset is behind the first byte of a character that ends at `next`, and before its end. -/
def CutsCharacter (text : SourceText) (offset next : Nat) : Prop :=
  ∃ before c after, text.content.toList = before ++ c :: after ∧
    Text.byteLength before < offset ∧ offset < Text.byteLength before + c.utf8Size ∧
    next = Text.byteLength before + c.utf8Size

theorem CutsCharacter.next_eq (cuts : text.CutsCharacter offset next) :
    next = Text.byteLength (Text.startingBefore offset text.content.toList) := by
  obtain ⟨before, c, after, content, behind, ahead, rfl⟩ := cuts
  rw [content, Text.startingBefore_inside behind (Nat.le_of_lt ahead), Text.byteLength_append]
  rfl

theorem CutsCharacter.lt_next (cuts : text.CutsCharacter offset next) : offset < next := by
  obtain ⟨before, c, after, -, -, ahead, rfl⟩ := cuts
  exact ahead

theorem CutsCharacter.inside (cuts : text.CutsCharacter offset next) :
    offset ≤ text.content.utf8ByteSize := by
  obtain ⟨before, c, after, content, -, ahead, rfl⟩ := cuts
  rw [← Text.byteLength_toList, content, Text.byteLength_append, Text.byteLength_cons]
  omega

/-- The next boundary is on the line of the offset, behind the characters that start before it. -/
theorem OnLine.roundUp (h : text.OnLine offset line distance chars) :
    text.OnLine (Text.byteLength (Text.startingBefore offset text.content.toList)) line
      (Text.byteLength (Text.startingBefore distance chars)) chars where
  getElem?_lines := h.getElem?_lines
  isBytePlace := by
    obtain ⟨hchars, place⟩ := h.of_content
    rw [lines]
    exact place.roundUp hchars
  offset_eq := by
    have front := Text.startingBefore_flatten h.getElem?_lines h.distance_le_byteLength
    rw [← h.offset_eq, flatten_lines] at front
    rw [front, Text.byteLength_append]

/-- An offset is placed where the next boundary is placed. -/
theorem ofLocation_roundUp (inside : offset ≤ text.content.utf8ByteSize) :
    Placement.ofLocation (.within text.source offset) =
      { Placement.ofLocation (.within text.source
          (Text.byteLength (Text.startingBefore offset text.content.toList))) with
        offset? := some offset } := by
  obtain ⟨line, distance, chars, h⟩ := exists_onLine inside
  have rounded := h.roundUp
  apply Placement.ofLocation_congr
  · rw [h.lineAt?_eq, rounded.lineAt?_eq]
  · rw [h.lineText_eq, rounded.lineText_eq]
  · rw [h.sub_lineStart_eq, rounded.sub_lineStart_eq, h.lineText_eq, rounded.lineText_eq,
      String.toList_ofList, Text.startingBefore_byteLength_startingBefore]

theorem CutsCharacter.isLeast_next (cuts : text.CutsCharacter offset next) :
    IsLeast {stop | offset < stop ∧ (⟨stop⟩ : String.Pos.Raw).IsValid text.content} next := by
  have inside : offset ≤ Text.byteLength text.content.toList := by
    rw [Text.byteLength_toList]
    exact cuts.inside
  obtain ⟨⟨-, boundary⟩, least⟩ := Text.isLeast_byteLength_startingBefore inside
  rw [← cuts.next_eq] at boundary least
  refine ⟨⟨cuts.lt_next, Text.isBoundary_toList_iff.mp boundary⟩, ?_⟩
  rintro stop ⟨behind, valid⟩
  exact least ⟨Nat.le_of_lt behind, Text.isBoundary_toList_iff.mpr valid⟩

/-- Wherever a text comes from, an offset inside a character is on a line of the text, and it is
placed where the next boundary is placed, save for the offset itself. A line number and a column of
it are those of the place whose offset is the next boundary. -/
theorem ofLocation_inside_character (text : SourceText) {offset next : Nat}
    (cuts : text.CutsCharacter offset next) :
    IsLeast {stop | offset < stop ∧ (⟨stop⟩ : String.Pos.Raw).IsValid text.content} next ∧
    (∃ line, text.source.lineAt? offset = some line ∧
      text.lines[line]? = some (text.source.lineText offset).toList) ∧
    Placement.ofLocation (.within text.source offset) =
      { Placement.ofLocation (.within text.source next) with offset? := some offset } ∧
    ∀ line column, text.PlacedAt offset line column →
      text.HasPlace line column ∧ next = text.offsetOf line column := by
  have same := ofLocation_roundUp cuts.inside
  rw [← cuts.next_eq] at same
  refine ⟨cuts.isLeast_next, ?_, same, ?_⟩
  · obtain ⟨line, distance, chars, h⟩ := exists_onLine cuts.inside
    exact ⟨line, h.lineAt?_eq, by rw [h.lineText_eq, String.toList_ofList, h.getElem?_lines]⟩
  · intro line column placed
    have placed_next : text.PlacedAt next line column := by
      rw [PlacedAt, same] at placed
      exact placed
    obtain ⟨positive, small, found⟩ := Placement.line?_ofLocation_eq_some_iff.mp placed_next.1
    have resolved := (Placement.column?_ofLocation_eq_some_iff.mp placed_next.2).1
    have numbered : text.IsNumbered next :=
      ⟨cuts.isLeast_next.1.2, line - 1, found, by rwa [Nat.sub_add_cancel positive]⟩
    exact hasPlace_of_placedAt resolved numbered placed_next

/-- The third byte of a character of four bytes, in front of a terminator. -/
theorem ofLocation_inside_character_of_four :
    let text : SourceText := ⟨"Sum.scala", .disk, "a\n𝄞\r\nb"⟩
    text.CutsCharacter 4 6 ∧
      Placement.ofLocation (.within text.source 4) =
        { Placement.ofLocation (.within text.source 6) with offset? := some 4 } := by
  intro text
  have cuts : text.CutsCharacter 4 6 :=
    ⟨['a', '\n'], '𝄞', ['\r', '\n', 'b'], by decide, by decide, by decide, by decide⟩
  exact ⟨cuts, (ofLocation_inside_character text cuts).2.2.1⟩

end SourceText

end DiagnosticRelay
