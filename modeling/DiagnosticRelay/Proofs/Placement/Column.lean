import DiagnosticRelay.Proofs.Placement.Fields
import DiagnosticRelay.Proofs.Source.Line
import DiagnosticRelay.Proofs.Text.Ending
import DiagnosticRelay.Proofs.Text.Rounding

/-!
# Columns and the text shown

Columns count the characters of a line with its terminator, but the line is shown without it. The
two agree where the text shown has a character: it is the one that stands at the offset. Behind
these there is one more column, at the end of what is shown, and a second one for a single offset
only: the line feed of a terminator that begins with a carriage return.
-/

namespace DiagnosticRelay

namespace Text

/-- The character stands at the offset. -/
def StartsAt (text : List Char) (offset : Nat) (c : Char) : Prop :=
  ∃ before after, text = before ++ c :: after ∧ offset = byteLength before

/-- A line feed stands at the offset, and a carriage return directly in front of it. -/
def IsPairFeed (text : List Char) (offset : Nat) : Prop :=
  ∃ before after, text = before ++ '\r' :: '\n' :: after ∧ offset = byteLength before + 1

variable {text chars : List Char} {line distance n k : Nat}

theorem length_startingBefore_le_iff :
    (startingBefore n text).length ≤ k ↔ text.length ≤ k ∨ n ≤ byteLength (text.take k) := by
  rw [← Nat.not_lt, lt_length_startingBefore_iff, not_and_or, Nat.not_lt, Nat.not_lt]

theorem length_startingBefore_append_le_iff {left ending : List Char} (more : ending ≠ []) :
    (startingBefore n (left ++ ending)).length ≤ left.length ↔ n ≤ byteLength left := by
  have longer : ¬(left ++ ending).length ≤ left.length := by
    rw [List.length_append, Nat.not_le]
    exact Nat.lt_add_of_pos_right (List.length_pos_iff.mpr more)
  rw [length_startingBefore_le_iff, List.take_left, or_iff_right longer]

/-- In front of a terminator of two characters, the first of them has a column of its own. -/
theorem length_startingBefore_pair {left : List Char} (inside : n < byteLength left + 2) :
    (startingBefore n (left ++ ['\r', '\n'])).length ≤ left.length + 1 ∧
      ((startingBefore n (left ++ ['\r', '\n'])).length = left.length + 1 ↔
        n = byteLength left + 1) := by
  have short : (startingBefore n (left ++ ['\r', '\n'])).length ≤ left.length ↔
      n ≤ byteLength left :=
    length_startingBefore_append_le_iff (List.cons_ne_nil _ _)
  have long : (startingBefore n (left ++ ['\r', '\n'])).length ≤ left.length + 1 ↔
      n ≤ byteLength left + 1 := by
    have whole : left ++ ['\r', '\n'] = (left ++ ['\r']) ++ ['\n'] := by simp
    have width : byteLength (left ++ ['\r']) = byteLength left + 1 := byteLength_append ..
    rw [whole, ← width, ← length_startingBefore_append_le_iff (List.cons_ne_nil '\n' []),
      List.length_append, List.length_singleton]
  omega

/-- A column is at most one past what is shown of its line, and it is so far only between the two
characters of a terminator. -/
theorem length_startingBefore_of_isBytePlace (hchars : (lines text)[line]? = some chars)
    (place : IsBytePlace (lines text) line distance) :
    (startingBefore distance chars).length ≤ (stripTerminator chars).length + 1 ∧
      ((startingBefore distance chars).length = (stripTerminator chars).length + 1 ↔
        ∃ body, chars = body ++ ['\r', '\n'] ∧ distance = byteLength body + 1) := by
  rcases stripTerminator_cases hchars with ⟨whole, feed⟩ | ⟨more, plain, ending, split, shown⟩
  · have bound := length_startingBefore_le_length distance chars
    rw [whole]
    refine ⟨by omega, ⟨fun past => by omega, ?_⟩⟩
    rintro ⟨body, rfl, -⟩
    exact absurd (by simp) feed
  · have inside : distance < byteLength chars := by
      have inside := place.distance_lt hchars
      omega
    generalize stripTerminator chars = left at *
    subst split
    rw [byteLength_append] at inside
    rcases shown with rfl | single
    · obtain ⟨bound, last⟩ := length_startingBefore_pair inside
      refine ⟨bound, ?_⟩
      rw [last]
      constructor
      · intro between
        exact ⟨left, rfl, between⟩
      · rintro ⟨body, same, between⟩
        rw [List.append_cancel_right same]
        exact between
    · -- A single terminator begins at the end of what is shown, so no column is past that.
      obtain ⟨last, rfl, size⟩ : ∃ last, ending = [last] ∧ byteLength [last] = 1 := by
        rcases single with rfl | rfl <;> exact ⟨_, rfl, rfl⟩
      have short : (startingBefore distance (left ++ [last])).length ≤ left.length :=
        (length_startingBefore_append_le_iff (List.cons_ne_nil _ _)).mpr (by omega)
      refine ⟨by omega, ⟨fun past => by omega, ?_⟩⟩
      rintro ⟨body, same, -⟩
      rw [List.append_cons body] at same
      have front : left = body ++ ['\r'] := (List.append_inj' same rfl).1
      exact absurd (by simp [front]) plain.2.2

end Text

namespace SourceText

variable {text : SourceText} {offset line distance : Nat} {chars : List Char}

/-- The line feed of a pair is the last character of a line that ends in the pair. -/
theorem OnLine.isPairFeed_iff (h : text.OnLine offset line distance chars) :
    Text.IsPairFeed text.content.toList offset ↔
      ∃ body, chars = body ++ ['\r', '\n'] ∧ distance = Text.byteLength body + 1 := by
  constructor
  · rintro ⟨before, after, content, rfl⟩
    obtain ⟨init, body, rfl, cut⟩ := Text.exists_lines_pair before after
    rw [← content, ← lines] at cut
    have found : text.lines[init.length]? = some (body ++ ['\r', '\n']) := by simp [cut]
    have pair : text.OnLine (Text.byteLength (init.flatten ++ body) + 1) init.length
        (Text.byteLength body + 1) (body ++ ['\r', '\n']) :=
      { getElem?_lines := found
        isBytePlace := ⟨_, found, .inl (by rw [Text.byteLength_append]; exact Nat.lt_succ_self _)⟩
        offset_eq := by simp [cut, Nat.add_assoc] }
    obtain ⟨-, rfl, rfl⟩ := h.unique pair
    exact ⟨body, rfl, rfl⟩
  · rintro ⟨body, rfl, rfl⟩
    refine ⟨(text.lines.take line).flatten ++ body, (text.lines.drop (line + 1)).flatten, ?_, ?_⟩
    · rw [h.content_eq]
      simp
    · rw [h.offset_eq, Text.byteLength_append, Nat.add_assoc]

/-- Where what is shown of the line has a character in the column of the offset, this character
stands at the offset. -/
theorem OnLine.startsAt (h : text.OnLine offset line distance chars) {before after : List Char}
    (split : chars = before ++ after) (width : distance = Text.byteLength before)
    (shown : before.length < (Text.stripTerminator chars).length) :
    ∃ c, (Text.stripTerminator chars)[before.length]? = some c ∧
      Text.StartsAt text.content.toList offset c := by
  obtain ⟨ending, whole, -⟩ := Text.exists_stripTerminator_append chars
  have same : (Text.stripTerminator chars)[before.length]? = chars[before.length]? := by
    conv_rhs => rw [whole, List.getElem?_append_left shown]
  rw [same, split, List.getElem?_append_right (Nat.le_refl _), Nat.sub_self]
  cases after with
  | nil =>
      have short := congrArg List.length whole
      have all : chars.length = before.length := by rw [split, List.append_nil]
      rw [List.length_append] at short
      omega
  | cons c after =>
      refine ⟨c, rfl, (text.lines.take line).flatten ++ before,
        after ++ (text.lines.drop (line + 1)).flatten, ?_, ?_⟩
      · rw [h.content_eq, split]
        simp
      · rw [h.offset_eq, width, Text.byteLength_append]

/-- In a text that can be resolved, the column of an offset is at most one past the characters shown
of its line, and it is so far exactly at the line feed of a pair. Where a character is shown in the
column of an offset that cuts none, it is the one that stands there. -/
theorem column_within_line_text (text : SourceText) (resolved : text.source.resolved = true)
    {offset : Nat} (inside : offset ≤ text.content.utf8ByteSize) :
    ∃ column line, (Placement.ofLocation (.within text.source offset)).column? = some column ∧
      (Placement.ofLocation (.within text.source offset)).lineText? = some line ∧
      column ≤ line.length + 1 ∧
      (column = line.length + 1 ↔ Text.IsPairFeed text.content.toList offset) ∧
      ((⟨offset⟩ : String.Pos.Raw).IsValid text.content → column < line.length →
        ∃ c, line.toList[column]? = some c ∧ Text.StartsAt text.content.toList offset c) := by
  obtain ⟨index, distance, chars, h⟩ := exists_onLine inside
  obtain ⟨hchars, place⟩ := h.of_content
  obtain ⟨bound, last⟩ := Text.length_startingBefore_of_isBytePlace hchars place
  refine ⟨(Text.startingBefore distance chars).length, .ofList (Text.stripTerminator chars), ?_, ?_,
    ?_, ?_, ?_⟩
  · exact h.column?_eq resolved
  · exact h.lineText?_eq
  · rw [String.length_ofList]
    exact bound
  · rw [String.length_ofList, last, h.isPairFeed_iff]
  · intro boundary shown
    obtain ⟨before, after, split, width⟩ := h.exists_split boundary
    have column : Text.startingBefore distance chars = before := by
      rw [split, width, Text.startingBefore_byteLength_append]
    rw [String.length_ofList, column] at shown
    rw [String.toList_ofList, column]
    exact h.startsAt split width shown

/-- The line feed of a pair, behind a character of two bytes, is one past what is shown. -/
theorem column_within_line_text_pair :
    let text : SourceText := ⟨"Win.scala", .disk, "é\r\nx"⟩
    text.source.resolved = true ∧ 3 ≤ text.content.utf8ByteSize ∧
      ∃ column line, (Placement.ofLocation (.within text.source 3)).column? = some column ∧
        (Placement.ofLocation (.within text.source 3)).lineText? = some line ∧
        column = line.length + 1 := by
  intro text
  have inside : 3 ≤ text.content.utf8ByteSize := by decide
  obtain ⟨column, line, hcolumn, hline, -, past, -⟩ := column_within_line_text text rfl inside
  exact ⟨rfl, inside, column, line, hcolumn, hline, past.mpr ⟨['é'], ['x'], by decide, by decide⟩⟩

end SourceText

end DiagnosticRelay
