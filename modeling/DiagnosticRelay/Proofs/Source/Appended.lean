import DiagnosticRelay.Proofs.Source.Line
import DiagnosticRelay.Proofs.Text.Ending

/-!
# Texts that grow

The lines of a text change little when more text is put behind it: the last line goes on, and the
lines of what was added follow. Only a carriage return at the end, with a line feed put behind it,
is no longer the end of a line. Apart from that every answer about an offset above the last line
stays what it was, and so does the placement of the offset.
-/

namespace DiagnosticRelay

namespace Text

variable {first second : List Char}

/-- The end of the first text and the beginning of the second one make one terminator. -/
def SharesTerminator (first second : List Char) : Prop :=
  first.getLast? = some '\r' ∧ second.head? = some '\n'

instance (first second : List Char) : Decidable (SharesTerminator first second) :=
  inferInstanceAs (Decidable (_ ∧ _))

/-! ## Where the lines begin -/

theorem breaksFrom_append (seam : ¬SharesTerminator first second) (start : Nat) :
    breaksFrom start (first ++ second) =
      breaksFrom start first ++ breaksFrom (start + byteLength first) second := by
  induction first generalizing start with
  | nil => rfl
  | cons c first ih =>
      have ends := endsLine_append (not_and.mp seam)
      have seam_rest : ¬SharesTerminator first second := by
        rintro ⟨cr, feed⟩
        apply seam
        refine ⟨?_, feed⟩
        rw [List.getLast?_cons_of_ne_nil (by rintro rfl; simp at cr), cr]
      have later := ih seam_rest (start + c.utf8Size)
      rw [Nat.add_assoc, ← byteLength_cons] at later
      rw [List.cons_append, breaksFrom, breaksFrom, ends, later]
      split
      · rfl
      · rfl

/-- A text that begins later has all its terminators later. -/
theorem breaksFrom_add (shift start : Nat) (text : List Char) :
    breaksFrom (shift + start) text = (breaksFrom start text).map (shift + ·) := by
  induction text generalizing start with
  | nil => rfl
  | cons c rest ih =>
      rw [breaksFrom, breaksFrom, Nat.add_assoc, ih]
      split
      · rfl
      · rfl

/-- The lines but the first begin behind a terminator, which takes a byte at least. -/
theorem filter_lineStarts (text : List Char) :
    (lineStarts text).filter (· ≠ 0) = breaksFrom 0 text := by
  rw [lineStarts, List.filter_cons_of_neg (by simp), List.filter_eq_self]
  intro offset member
  have positive := lt_of_mem_breaksFrom member
  simpa using Nat.ne_of_gt positive

theorem map_filter_lineStarts (shift : Nat) (text : List Char) :
    ((lineStarts text).filter (· ≠ 0)).map (shift + ·) = breaksFrom shift text := by
  rw [filter_lineStarts, ← breaksFrom_add, Nat.add_zero]

theorem lineStarts_append (seam : ¬SharesTerminator first second) :
    lineStarts (first ++ second) =
      lineStarts first ++ ((lineStarts second).filter (· ≠ 0)).map (byteLength first + ·) := by
  rw [map_filter_lineStarts, lineStarts, lineStarts, breaksFrom_append seam, Nat.zero_add,
    List.cons_append]

/-- The carriage return at the end of the first text ends no line once a line feed is behind it. -/
theorem lineStarts_append_of_sharesTerminator (shared : SharesTerminator first second) :
    lineStarts (first ++ second) =
      (lineStarts first).dropLast ++
        ((lineStarts second).filter (· ≠ 0)).map (byteLength first + ·) := by
  obtain ⟨cr, feed⟩ := shared
  obtain ⟨front, rfl⟩ := List.getLast?_eq_some_iff.mp cr
  obtain ⟨rest, rfl⟩ := List.head?_eq_some_iff.mp feed
  -- In front of the pair nothing is shared, so the text may be cut there.
  have alone : ¬SharesTerminator front ['\r'] := by simp [SharesTerminator]
  have before : ¬SharesTerminator front ('\r' :: '\n' :: rest) := by simp [SharesTerminator]
  have single (start : Nat) : breaksFrom start ['\r'] = [start + 1] := rfl
  have pair (start : Nat) : breaksFrom start ('\r' :: '\n' :: rest) =
      breaksFrom (start + 1) ('\n' :: rest) := rfl
  rw [map_filter_lineStarts, List.append_assoc, List.singleton_append, lineStarts, lineStarts,
    breaksFrom_append before, breaksFrom_append alone, single, pair, byteLength_append,
    ← List.cons_append, ← List.cons_append, List.dropLast_concat, Nat.zero_add]
  rfl

end Text

/-! ## Placements in two sources -/

/-- The sources give the same answers about an offset, and are called alike. -/
structure Source.AgreesAt (source other : Source) (offset : Nat) : Prop where
  resolved : other.resolved = source.resolved
  file : other.file? = source.file?
  path : other.path = source.path
  lineAt : other.lineAt? offset = source.lineAt? offset
  lineStart : other.lineStart offset = source.lineStart offset
  lineText : other.lineText offset = source.lineText offset

/-- A placement depends on nothing but the answers of the source about the offset. -/
theorem Placement.ofLocation_of_agreesAt {source other : Source} {offset : Nat}
    (agrees : source.AgreesAt other offset) :
    ofLocation (.within other offset) = ofLocation (.within source offset) := by
  have column : columnIn? other offset = columnIn? source offset := by
    rw [columnIn?, columnIn?, agrees.lineAt, agrees.lineStart, agrees.lineText]
  have number : (Location.within other offset).line = (Location.within source offset).line := by
    rw [Location.line, Location.line, agrees.lineAt]
  simp only [ofLocation, column, number, agrees.resolved, agrees.file, agrees.path,
    agrees.lineText]

namespace SourceText

variable {text : SourceText} {more : String} {offset line distance last : Nat} {chars : List Char}

/-- The text with more behind it, under the same name and from the same origin. -/
def append (text : SourceText) (more : String) : SourceText :=
  { text with content := text.content ++ more }

theorem toList_content_append (text : SourceText) (more : String) :
    (text.append more).content.toList = text.content.toList ++ more.toList :=
  String.toList_append

/-! ## Above the last line -/

theorem OnLine.lineStart_eq (h : text.OnLine offset line distance chars) :
    text.source.lineStart offset = offset - distance := by
  have before : text.source.lineStart offset ≤ offset := (text.scannedAt offset).start_greatest.1.2
  have apart := h.sub_lineStart_eq
  omega

/-- An offset in front of the last line is on one of the others. -/
theorem OnLine.line_lt (h : text.OnLine offset line distance chars)
    (start : text.index.starts.toList.getLast? = some last) (above : offset < last) :
    line + 1 < text.lines.length := by
  have hline := (List.getElem?_eq_some_iff.mp h.getElem?_lines).1
  refine Nat.lt_of_le_of_ne hline ?_
  intro isLast
  have length : text.index.starts.toList.length = line + 1 := by
    rw [isLast, ← text.cutAt_starts, Text.length_cutAt]
  rw [List.getLast?_eq_getElem?, length, Nat.add_sub_cancel, h.getElem?_starts,
    Option.some.injEq] at start
  omega

/-- What is put behind a text leaves the lines in front of the last one where they are. -/
theorem OnLine.append (h : text.OnLine offset line distance chars)
    (seam : ¬Text.SharesTerminator text.content.toList more.toList)
    (above : line + 1 < text.lines.length) :
    (text.append more).OnLine offset line distance chars := by
  obtain ⟨init, final, alone, both⟩ := Text.exists_lines_append (not_and.mp seam)
  rw [← lines] at alone
  rw [← toList_content_append, ← lines] at both
  have inside : line < init.length := by
    rw [alone, List.length_append, List.length_singleton] at above
    omega
  have found : init[line]? = some chars := by
    rw [← h.getElem?_lines, alone, List.getElem?_append_left inside]
  have found_longer : (text.append more).lines[line]? = some chars := by
    rw [both, List.getElem?_append_left inside, found]
  have front : (text.append more).lines.take line = text.lines.take line := by
    rw [both, alone, List.take_append_of_le_length (Nat.le_of_lt inside),
      List.take_append_of_le_length (Nat.le_of_lt inside)]
  refine ⟨found_longer, ⟨chars, found_longer, ?_⟩, ?_⟩
  · obtain inside | ⟨isLast, -⟩ := h.isBytePlace.distance_lt h.getElem?_lines
    · exact .inl inside
    · exact absurd isLast (Nat.ne_of_lt above)
  · rw [front]
    exact h.offset_eq

/-- Two texts of the same name and origin agree at an offset that is at the same place in both. -/
theorem OnLine.agreesAt {other : SourceText} (h : text.OnLine offset line distance chars)
    (h' : other.OnLine offset line distance chars) (path : other.path = text.path)
    (origin : other.origin = text.origin) : text.source.AgreesAt other.source offset where
  resolved := by simp only [source, origin]
  file := by simp only [source, file?, path, origin]
  path := path
  lineAt := by rw [h'.lineAt?_eq, h.lineAt?_eq]
  lineStart := by rw [h'.lineStart_eq, h.lineStart_eq]
  lineText := by rw [h'.lineText_eq, h.lineText_eq]

/-- The lines of a text with more behind it begin where those of the text and, behind it, those of
what was added begin; a carriage return at the end ends no line if a line feed follows it now.
Unless it does, nothing that can be asked about an offset in front of the last line changes. -/
theorem index_append (text : SourceText) (more : String) :
    let longer := text.append more
    let added : SourceText := { text with content := more }
    let later := (added.index.starts.toList.filter (· ≠ 0)).map (text.content.utf8ByteSize + ·)
    (Text.SharesTerminator text.content.toList more.toList →
      longer.index.starts.toList = text.index.starts.toList.dropLast ++ later) ∧
    (¬Text.SharesTerminator text.content.toList more.toList →
      longer.index.starts.toList = text.index.starts.toList ++ later ∧
      ∀ last, text.index.starts.toList.getLast? = some last → ∀ offset < last,
        longer.source.lineAt? offset = text.source.lineAt? offset ∧
        longer.source.lineStart offset = text.source.lineStart offset ∧
        longer.source.lineText offset = text.source.lineText offset ∧
        longer.index.lineColumn? offset = text.index.lineColumn? offset ∧
        Placement.ofLocation (.within longer.source offset) =
          Placement.ofLocation (.within text.source offset)) := by
  intro longer added later
  have starts : longer.index.starts.toList =
      Text.lineStarts (text.content.toList ++ more.toList) := by
    rw [← toList_content_append]
    rfl
  have shifted : later = ((Text.lineStarts more.toList).filter (· ≠ 0)).map
      (Text.byteLength text.content.toList + ·) := by
    rw [Text.byteLength_toList]
    rfl
  refine ⟨?_, ?_⟩
  · intro shared
    rw [starts, shifted]
    exact Text.lineStarts_append_of_sharesTerminator shared
  · intro seam
    refine ⟨?_, ?_⟩
    · rw [starts, shifted]
      exact Text.lineStarts_append seam
    · intro last start offset above
      have inside : offset ≤ text.content.utf8ByteSize := by
        have bound := (Text.isBoundary_of_mem_lineStarts (List.mem_of_getLast? start)).le_byteLength
        rw [Text.byteLength_toList] at bound
        omega
      obtain ⟨line, distance, chars, h⟩ := exists_onLine inside
      have h' : longer.OnLine offset line distance chars := h.append seam (h.line_lt start above)
      have agrees := h.agreesAt h' rfl rfl
      refine ⟨agrees.lineAt, agrees.lineStart, agrees.lineText, ?_, ?_⟩
      · rw [h'.lineColumn?_eq, h.lineColumn?_eq]
      · exact Placement.ofLocation_of_agreesAt agrees

/-- A carriage return at the end, with a line feed and with another carriage return behind it. -/
theorem index_append_after_return :
    let text : SourceText := ⟨"Sum.scala", .disk, "é\nb\r"⟩
    (text.append "\nc").index.starts.toList = [0, 3, 6] ∧
      (text.append "\rc").index.starts.toList = [0, 3, 5, 6] ∧
      Placement.ofLocation (.within (text.append "\rc").source 4) =
        Placement.ofLocation (.within text.source 4) := by
  intro text
  have pair := (index_append text "\nc").1 (by decide)
  obtain ⟨unlike, lookups⟩ := (index_append text "\rc").2 (by decide)
  exact ⟨pair.trans (by decide), unlike.trans (by decide),
    (lookups 5 (by decide) 4 (by decide)).2.2.2.2⟩

end SourceText

end DiagnosticRelay
