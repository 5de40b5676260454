import DiagnosticRelay.Proofs.Placement.Correspondence
import Mathlib.Data.Set.Function
import Mathlib.Order.Bounds.Basic

/-!
# Lookups and scans

The lookups of a line index find by bisection what a scan of the text from its beginning finds: how
many terminators end at or before an offset, and where the last of them ends. This holds at every
offset, inside characters and past the end of the text as well. Lines and distances in bytes from
their beginnings then correspond to the offsets of the text one to one.
-/

namespace DiagnosticRelay

/-! ## Scans -/

/-- Bisection counts the entries up to a bound as a scan of all of them does. -/
theorem countUpTo_eq_countP {entries : Array Nat}
    (sorted : ∀ i j (hi : i < entries.size) (hj : j < entries.size), i ≤ j →
      entries[i] ≤ entries[j])
    (bound : Nat) : countUpTo entries bound = entries.toList.countP (· ≤ bound) := by
  have reached {i : Nat} (hi : i < entries.size) :
      i < countUpTo entries bound ↔ entries[i] ≤ bound :=
    lt_countUpTo_iff (fun i j hj hij => sorted i j (Nat.lt_of_le_of_lt hij hj) hj hij) bound hi
  have small : ∀ entry ∈ entries.toList.take (countUpTo entries bound), entry ≤ bound := by
    intro entry member
    obtain ⟨i, hi, rfl⟩ := List.getElem_of_mem member
    rw [List.length_take, Nat.lt_min, Array.length_toList] at hi
    rw [List.getElem_take, Array.getElem_toList]
    exact (reached hi.2).mp hi.1
  have large : ∀ entry ∈ entries.toList.drop (countUpTo entries bound), ¬entry ≤ bound := by
    intro entry member
    obtain ⟨i, hi, rfl⟩ := List.getElem_of_mem member
    rw [List.length_drop, Array.length_toList] at hi
    rw [List.getElem_drop, Array.getElem_toList, ← reached (by omega)]
    omega
  have all : (entries.toList.take (countUpTo entries bound)).countP (· ≤ bound) =
      countUpTo entries bound := by
    rw [List.countP_eq_length.mpr (by simpa using small), List.length_take, Array.length_toList]
    exact Nat.min_eq_left (countUpTo_le_size entries bound)
  have none : (entries.toList.drop (countUpTo entries bound)).countP (· ≤ bound) = 0 :=
    List.countP_eq_zero.mpr (by simpa using large)
  calc countUpTo entries bound
    _ = (entries.toList.take (countUpTo entries bound) ++
          entries.toList.drop (countUpTo entries bound)).countP (· ≤ bound) := by
        rw [List.countP_append, all, none, Nat.add_zero]
    _ = entries.toList.countP (· ≤ bound) := by rw [List.take_append_drop]

namespace Text

/-- The offsets directly behind the terminators of a text that begins at offset `start`. -/
def terminatorEnds (start : Nat) : List Char → List Nat
  | [] => []
  | '\r' :: '\n' :: rest => (start + 2) :: terminatorEnds (start + 2) rest
  | c :: rest =>
    if c = '\n' ∨ c = '\x0c' ∨ c = '\r' then
      (start + c.utf8Size) :: terminatorEnds (start + c.utf8Size) rest
    else terminatorEnds (start + c.utf8Size) rest

/-- Lines begin where terminators end. -/
theorem terminatorEnds_eq_breaksFrom (start : Nat) (text : List Char) :
    terminatorEnds start text = breaksFrom start text := by
  fun_induction terminatorEnds start text with
  | case1 => rfl
  | case2 start rest ih =>
      have sizes : start + '\r'.utf8Size + '\n'.utf8Size = start + 2 := rfl
      simp [breaksFrom, endsLine, sizes, ih]
  | case3 start c rest pair ends ih =>
      rw [breaksFrom, if_pos (endsLine_iff.mpr (isTerminator_singleton pair ends)), ih]
  | case4 start c rest pair plain ih =>
      have hc : c ≠ '\n' ∧ c ≠ '\x0c' ∧ c ≠ '\r' := by simpa [not_or] using plain
      rw [breaksFrom, endsLine_eq_false hc, if_neg Bool.false_ne_true, ih]

/-- A line and a distance in bytes from its beginning that stays on the line. The end of the last
line counts as on it. -/
def IsBytePlace (lines : List (List Char)) (line column : Nat) : Prop :=
  ∃ chars, lines[line]? = some chars ∧
    (column < byteLength chars ∨ (line + 1 = lines.length ∧ column ≤ byteLength chars))

variable {text : List Char} {line column start : Nat}

/-- The beginning of the line after this one, or the end of the text. -/
theorem lineStarts_succ {chars : List Char} (hstart : (lineStarts text)[line]? = some start)
    (hchars : (lines text)[line]? = some chars) :
    (line + 1 = (lines text).length ∧ start + byteLength chars = byteLength text) ∨
      (lineStarts text)[line + 1]? = some (start + byteLength chars) := by
  obtain ⟨hline, -⟩ := List.getElem?_eq_some_iff.mp hchars
  rw [getElem?_lineStarts hline, Option.some.injEq] at hstart
  have next := byteLength_flatten_take_succ hchars
  rw [hstart] at next
  rcases Nat.lt_or_eq_of_le (Nat.succ_le_of_lt hline) with below | last
  · right
    rw [getElem?_lineStarts below, next]
  · left
    rw [← next, show line + 1 = (lines text).length from last, List.take_length,
      flatten_lines]
    exact ⟨rfl, rfl⟩

/-- An offset on a line is neither past the end of the text nor on the line below. -/
theorem IsBytePlace.offset_le (place : IsBytePlace (lines text) line column)
    (hstart : (lineStarts text)[line]? = some start) :
    start + column ≤ byteLength text ∧
      ∀ next, (lineStarts text)[line + 1]? = some next → start + column < next := by
  obtain ⟨chars, hchars, hcolumn⟩ := place
  rcases lineStarts_succ hstart hchars with ⟨last, whole⟩ | next
  · refine ⟨by omega, ?_⟩
    intro next hnext
    have below := (List.getElem?_eq_some_iff.mp hnext).1
    rw [length_lineStarts, last] at below
    exact absurd below (Nat.lt_irrefl _)
  · have below := (List.getElem?_eq_some_iff.mp next).1
    rw [length_lineStarts] at below
    have inside : column < byteLength chars := by omega
    have bound : start + byteLength chars ≤ byteLength text :=
      (isBoundary_of_mem_lineStarts (List.mem_of_getElem? next)).le_byteLength
    refine ⟨by omega, ?_⟩
    intro next' hnext
    obtain rfl := Option.some.inj (next.symm.trans hnext)
    omega

end Text

/-! ## The line of an offset -/

namespace LineIndex

variable {text : List Char} {offset line column start : Nat}

/-- The first line begins before every offset. -/
theorem countUpTo_starts_pos (text : List Char) (offset : Nat) :
    0 < countUpTo (ofText text).starts offset := by
  apply (lt_countUpTo_iff starts_ofText_ascending offset (ofText text).starts_pos).mpr
  exact Nat.zero_le offset

theorem lineOf_eq_countP (text : List Char) (offset : Nat) :
    (ofText text).lineOf offset = (Text.terminatorEnds 0 text).countP (· ≤ offset) := by
  have counted : countUpTo (ofText text).starts offset =
      (ofText text).starts.toList.countP (· ≤ offset) :=
    countUpTo_eq_countP (fun i j _ hj hij => starts_ofText_ascending i j hj hij) offset
  have first : (ofText text).starts.toList = 0 :: Text.terminatorEnds 0 text := by
    rw [Text.terminatorEnds_eq_breaksFrom]
    rfl
  rw [first, List.countP_cons_of_pos (by simp)] at counted
  rw [lineOf, counted, Nat.add_sub_cancel]

/-- A line that begins at or before an offset is not below the line of the offset. -/
theorem le_lineOf_iff (hstart : (Text.lineStarts text)[line]? = some start) :
    line ≤ (ofText text).lineOf offset ↔ start ≤ offset := by
  obtain ⟨hline, rfl⟩ := List.getElem?_eq_some_iff.mp hstart
  have hsize : line < (ofText text).starts.size := by simpa using hline
  have reached : line < countUpTo (ofText text).starts offset ↔
      (Text.lineStarts text)[line] ≤ offset :=
    lt_countUpTo_iff starts_ofText_ascending offset hsize
  have pos := countUpTo_starts_pos text offset
  unfold lineOf
  omega

theorem getElem?_lineOf (text : List Char) (offset : Nat) :
    (Text.lineStarts text)[(ofText text).lineOf offset]? =
      some ((ofText text).lineStart offset) := by
  have hline : (ofText text).lineOf offset < (Text.lineStarts text).length := by
    simpa using (ofText text).lineOf_lt offset
  rw [List.getElem?_eq_getElem hline]
  rfl

/-- The line of an offset begins at the greatest line start that is not above it. -/
theorem isGreatest_lineStart (text : List Char) (offset : Nat) :
    IsGreatest {start | start ∈ Text.lineStarts text ∧ start ≤ offset}
      ((ofText text).lineStart offset) := by
  have found := getElem?_lineOf text offset
  refine ⟨⟨List.mem_of_getElem? found, (le_lineOf_iff found).mp (Nat.le_refl _)⟩, ?_⟩
  rintro start ⟨member, before⟩
  obtain ⟨line, hstart⟩ := List.getElem?_of_mem member
  have not_below := (le_lineOf_iff hstart).mpr before
  obtain ⟨-, rfl⟩ := List.getElem?_eq_some_iff.mp hstart
  exact starts_ofText_ascending line _ ((ofText text).lineOf_lt offset) not_below

/-- An offset past the end of the text is nearest to the last line. -/
theorem getLast?_lineStarts_of_lt (past : Text.byteLength text < offset) :
    (Text.lineStarts text).getLast? = some ((ofText text).lineStart offset) := by
  have pos : 0 < (Text.lineStarts text).length := Nat.zero_lt_succ _
  have hlast : (Text.lineStarts text).length - 1 < (Text.lineStarts text).length := by omega
  have last_le : (Text.lineStarts text)[(Text.lineStarts text).length - 1] ≤ Text.byteLength text :=
    (Text.isBoundary_of_mem_lineStarts (List.getElem_mem hlast)).le_byteLength
  have reached := (le_lineOf_iff (List.getElem?_eq_getElem hlast)).mpr
    (Nat.le_of_lt (Nat.lt_of_le_of_lt last_le past))
  have bound := (ofText text).lineOf_lt offset
  rw [size_starts_ofText, ← Text.length_lineStarts] at bound
  have same : (ofText text).lineOf offset = (Text.lineStarts text).length - 1 := by omega
  rw [List.getLast?_eq_getElem?, ← same]
  exact getElem?_lineOf text offset

/-- The text of the line is the whole line, at every offset that is on one. -/
theorem getElem?_lines_lineOf (hoffset : offset ≤ Text.byteLength text) :
    (Text.lines text)[(ofText text).lineOf offset]? = some ((ofText text).lineText offset) := by
  have hline : (ofText text).lineOf offset < (Text.lines text).length := by
    simpa using (ofText text).lineOf_lt offset
  have found := List.getElem?_eq_getElem hline
  rw [found, lineText_ofText hoffset rfl found]

/-! ## Lines and distances -/

/-- The line and column of an offset are the only ones that lead back to it. -/
theorem lineColumn?_eq_some_iff :
    (ofText text).lineColumn? offset = some (line, column) ↔
      Text.IsBytePlace (Text.lines text) line column ∧
        ∃ start, (Text.lineStarts text)[line]? = some start ∧ offset = start + column := by
  constructor
  · intro h
    obtain ⟨index, found, place⟩ := Option.map_eq_some_iff.mp h
    obtain ⟨rfl, rfl⟩ := Prod.mk.inj place
    rw [lineAt?, byteLength_ofText] at found
    split at found
    · rename_i hoffset
      obtain rfl := Option.some.inj found
      have hstart := getElem?_lineOf text offset
      have hchars := getElem?_lines_lineOf hoffset
      have before := (le_lineOf_iff hstart).mp (Nat.le_refl _)
      refine ⟨⟨_, hchars, ?_⟩, _, hstart, by omega⟩
      rcases Text.lineStarts_succ hstart hchars with ⟨last, whole⟩ | next
      · exact .inr ⟨last, by omega⟩
      · have above := mt (le_lineOf_iff next).mpr (Nat.not_succ_le_self _)
        exact .inl (by omega)
    · cases found
  · rintro ⟨place, start, hstart, rfl⟩
    obtain ⟨inside, above⟩ := place.offset_le hstart
    have hline := lineOf_ofText hstart (Nat.le_add_right start column) above
    rw [lineColumn?, lineAt?, byteLength_ofText, if_pos inside, Option.map_some,
      lineStart_ofText hline hstart, hline, Nat.add_sub_cancel_left]

end LineIndex

namespace SourceText

/-- What a scan of the text says about an offset, and what the lookups answer. -/
structure ScannedAt (text : SourceText) (offset : Nat) : Prop where
  /-- No lookup leaves the index. -/
  in_bounds : text.index.lineOf offset < text.index.lineCount
  start_greatest : IsGreatest {start | start ∈ text.index.starts.toList ∧ start ≤ offset}
    (text.source.lineStart offset)
  start_past : text.content.utf8ByteSize < offset →
    text.index.starts.toList.getLast? = some (text.source.lineStart offset)
  line_isSome_iff : (text.source.lineAt? offset).isSome ↔ offset ≤ text.content.utf8ByteSize
  /-- The line has as many terminators above it. -/
  line_count : ∀ line, text.source.lineAt? offset = some line →
    line = (Text.terminatorEnds 0 text.content.toList).countP (· ≤ offset)
  /-- The text of the line is the line, with its terminator. -/
  line_text : ∀ line, text.source.lineAt? offset = some line →
    text.lines[line]? = some (text.source.lineText offset).toList
  text_past : text.content.utf8ByteSize < offset → text.source.lineText offset = ""

theorem scannedAt (text : SourceText) (offset : Nat) : text.ScannedAt offset := by
  have size : Text.byteLength text.content.toList = text.content.utf8ByteSize :=
    Text.byteLength_toList text.content
  have found : text.source.lineAt? offset =
      if offset ≤ text.content.utf8ByteSize then some (text.index.lineOf offset) else none := by
    rw [← size]
    rfl
  have on_line : ∀ line, text.source.lineAt? offset = some line →
      offset ≤ text.content.utf8ByteSize ∧ line = text.index.lineOf offset := by
    intro line hline
    rw [found] at hline
    split at hline
    · rename_i inside
      exact ⟨inside, (Option.some.inj hline).symm⟩
    · cases hline
  refine
    { in_bounds := text.index.lineOf_lt offset
      start_greatest := LineIndex.isGreatest_lineStart text.content.toList offset
      start_past := ?_
      line_isSome_iff := ?_
      line_count := ?_
      line_text := ?_
      text_past := ?_ }
  · intro past
    exact LineIndex.getLast?_lineStarts_of_lt (size ▸ past)
  · rw [found]
    split <;> simp_all
  · intro line hline
    rw [(on_line line hline).2]
    exact LineIndex.lineOf_eq_countP text.content.toList offset
  · intro line hline
    obtain ⟨inside, rfl⟩ := on_line line hline
    rw [lines, toList_source_lineText]
    exact LineIndex.getElem?_lines_lineOf (size ▸ inside)
  · intro past
    have outside : ¬offset ≤ text.index.byteLength := by
      rw [index, LineIndex.byteLength_ofText, size]
      exact Nat.not_le_of_lt past
    change String.ofList (text.index.lineText offset) = ""
    rw [LineIndex.lineText, if_neg outside, String.ofList_nil]

theorem lineColumn?_eq_some_iff {text : SourceText} {offset line column : Nat} :
    text.index.lineColumn? offset = some (line, column) ↔
      Text.IsBytePlace text.lines line column ∧
        ∃ start, text.index.starts.toList[line]? = some start ∧ offset = start + column := by
  rw [lines]
  exact LineIndex.lineColumn?_eq_some_iff

theorem exists_lineColumn? (text : SourceText) {offset : Nat}
    (inside : offset ≤ text.content.utf8ByteSize) :
    ∃ line column, text.index.lineColumn? offset = some (line, column) := by
  obtain ⟨line, found⟩ :=
    Option.isSome_iff_exists.mp ((text.scannedAt offset).line_isSome_iff.mpr inside)
  rw [source_lineAt?] at found
  exact ⟨line, offset - text.index.lineStart offset, by rw [LineIndex.lineColumn?, found]; rfl⟩

/-- At every offset the lookups of a text answer what a scan of the text finds. The offsets of the
text correspond one to one to the lines with a distance from their beginning, and to come back from
a line and a distance is to add the distance to where the line begins. -/
theorem lookups_eq_scan (text : SourceText) :
    (∀ offset, text.ScannedAt offset) ∧
    Set.BijOn text.index.lineColumn? (Set.Iic text.content.utf8ByteSize)
      {place | ∃ line column, place = some (line, column) ∧
        Text.IsBytePlace text.lines line column} ∧
    ∀ offset line column, text.index.lineColumn? offset = some (line, column) ↔
      Text.IsBytePlace text.lines line column ∧
        ∃ start, text.index.starts.toList[line]? = some start ∧ offset = start + column := by
  refine ⟨text.scannedAt, ⟨?_, ?_, ?_⟩, fun _ _ _ => lineColumn?_eq_some_iff⟩
  · intro offset inside
    obtain ⟨line, column, found⟩ := text.exists_lineColumn? inside
    exact ⟨line, column, found, (lineColumn?_eq_some_iff.mp found).1⟩
  · intro offset inside offset' _ same
    obtain ⟨line, column, found⟩ := text.exists_lineColumn? inside
    obtain ⟨-, start, hstart, rfl⟩ := lineColumn?_eq_some_iff.mp found
    obtain ⟨-, start', hstart', rfl⟩ := lineColumn?_eq_some_iff.mp (same.symm.trans found)
    rw [Option.some.inj (hstart.symm.trans hstart')]
  · rintro place ⟨line, column, rfl, isPlace⟩
    have ⟨chars, hchars, _⟩ := isPlace
    rw [lines] at hchars
    have hstart := Text.getElem?_lineStarts (List.getElem?_eq_some_iff.mp hchars).1
    refine ⟨_, ?_, lineColumn?_eq_some_iff.mpr ⟨isPlace, _, hstart, rfl⟩⟩
    rw [lines] at isPlace
    rw [Set.mem_Iic, ← Text.byteLength_toList]
    exact (isPlace.offset_le hstart).1

end SourceText

end DiagnosticRelay
