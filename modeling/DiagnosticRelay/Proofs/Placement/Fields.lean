import DiagnosticRelay.Proofs.Placement.Correspondence
import DiagnosticRelay.Proofs.Text.Strip

/-!
# The fields of a placement

A source may answer anything: a line index of any size, a line that begins behind the offset, a
text that has nothing to do with either. `Describes` says what each field of the placement is in
terms of these answers, and when it is there at all. The placement of every offset in every source
is described so, and a location that points nowhere is the only one of which nothing is known.
-/

namespace DiagnosticRelay

/-! ## Columns and alignments -/

namespace Text

/-- The characters that start before a byte, one by one. -/
theorem lt_length_startingBefore_iff {n i : Nat} {text : List Char} :
    i < (startingBefore n text).length ↔ i < text.length ∧ byteLength (text.take i) < n := by
  induction text generalizing n i with
  | nil => simp
  | cons c rest ih =>
      cases n with
      | zero => simp
      | succ n =>
          cases i with
          | zero => simp [startingBefore]
          | succ i =>
              simp only [startingBefore, List.length_cons, Nat.add_lt_add_iff_right, ih,
                List.take_succ_cons, byteLength_cons]
              omega

theorem length_startingBefore_le_length (n : Nat) (text : List Char) :
    (startingBefore n text).length ≤ text.length := by
  have whole := congrArg List.length (startingBefore_append_startingFrom n text)
  rw [List.length_append] at whole
  omega

/-- No more characters start before a byte than there are bytes in front of it. -/
theorem length_startingBefore_le (n : Nat) (text : List Char) :
    (startingBefore n text).length ≤ n := by
  induction text generalizing n with
  | nil => simp
  | cons c rest ih =>
      cases n with
      | zero => simp
      | succ n =>
          have before := ih (n + 1 - c.utf8Size)
          have size := c.utf8Size_pos
          rw [startingBefore, List.length_cons]
          omega

/-- An alignment repeats the tabs of the line and has spaces everywhere else. -/
theorem getElem?_alignment {text : List Char} {column i : Nat} (h : i < column) :
    (alignment text column)[i]? = some (if text[i]? = some '\t' then '\t' else ' ') := by
  rw [alignment]
  by_cases inside : i < text.length
  · rw [List.getElem?_append_left (by simp; omega), List.getElem?_map,
      List.getElem?_take_of_lt h, List.getElem?_eq_getElem inside]
    simp [blankFor]
  · have outside : text.length ≤ i := Nat.le_of_not_lt inside
    rw [List.getElem?_append_right (by simp; omega), List.getElem?_replicate_of_lt (by simp; omega),
      List.getElem?_eq_none outside]
    simp

end Text

namespace Placement

/-! ## One field at a time -/

/-- What a placement says of an offset in a source. -/
structure Describes (placement : Placement) (source : Source) (offset : Nat) : Prop where
  offset_eq : placement.offset? = some offset
  path_eq : placement.path? = if source.resolved then some source.path else none
  file_eq : placement.file? = if source.resolved then source.file? else none
  /-- The text of the line is the source's, without a terminator at its end. -/
  line_text : ∃ line, placement.lineText? = some line ∧
    Text.IsStripped (source.lineText offset).toList line.toList
  /-- Lines are counted from one, and those beyond the largest number have none. -/
  line_iff : ∀ number, placement.line? = some number ↔
    1 ≤ number ∧ number ≤ maxLine ∧ source.lineAt? offset = some (number - 1)
  column_isSome_iff : placement.column?.isSome ↔
    source.resolved ∧ (source.lineAt? offset).isSome
  alignment_isSome_iff : placement.alignment?.isSome ↔
    source.resolved ∧ (source.lineAt? offset).isSome
  column_le_length : ∀ column, placement.column? = some column →
    column ≤ (source.lineText offset).toList.length
  column_le_distance : ∀ column, placement.column? = some column →
    column ≤ offset - source.lineStart offset
  /-- The column counts the characters of the line, terminator included, that start before the
  offset. -/
  lt_column_iff : ∀ column, placement.column? = some column →
    ∀ i < (source.lineText offset).toList.length, i < column ↔
      Text.byteLength ((source.lineText offset).toList.take i) < offset - source.lineStart offset
  alignment_length : ∀ column blanks, placement.column? = some column →
    placement.alignment? = some blanks → blanks.length = column
  /-- Below the text of the line, a tab stands under each tab and a space under all else. -/
  alignment_blank : ∀ line blanks, placement.lineText? = some line →
    placement.alignment? = some blanks → ∀ i < blanks.length,
      blanks.toList[i]? = some (if line.toList[i]? = some '\t' then '\t' else ' ')

variable {source : Source} {offset : Nat}

theorem line?_ofLocation_eq_some_iff {number : Nat} :
    (ofLocation (.within source offset)).line? = some number ↔
      1 ≤ number ∧ number ≤ maxLine ∧ source.lineAt? offset = some (number - 1) := by
  rw [line?_ofLocation_within]
  constructor
  · intro h
    obtain ⟨index, found, numbered⟩ := Option.bind_eq_some_iff.mp h
    split at numbered
    · rename_i small
      obtain rfl := Option.some.inj numbered
      exact ⟨Nat.le_add_left 1 index, small, found⟩
    · exact absurd numbered (by simp)
  · rintro ⟨positive, small, found⟩
    have number_eq : number - 1 + 1 = number := Nat.sub_add_cancel positive
    rw [found, Option.bind_some, number_eq, if_pos small]

theorem column?_ofLocation_eq_some_iff {column : Nat} :
    (ofLocation (.within source offset)).column? = some column ↔
      source.resolved ∧ (source.lineAt? offset).isSome ∧
        (Text.startingBefore (offset - source.lineStart offset)
          (source.lineText offset).toList).length = column := by
  cases resolved : source.resolved with
  | false => simp [ofLocation, resolved]
  | true =>
      rw [column?_ofLocation_within resolved, columnIn?, Option.map_eq_some_iff,
        Option.isSome_iff_exists]
      simp

theorem alignment?_ofLocation :
    (ofLocation (.within source offset)).alignment? =
      (ofLocation (.within source offset)).column?.map fun column =>
        .ofList (Text.alignment (Text.stripTerminator (source.lineText offset).toList) column) :=
  rfl

theorem describes_ofLocation (source : Source) (offset : Nat) :
    Describes (ofLocation (.within source offset)) source offset := by
  have present : (ofLocation (.within source offset)).column?.isSome ↔
      source.resolved ∧ (source.lineAt? offset).isSome := by
    simp [Option.isSome_iff_exists, column?_ofLocation_eq_some_iff]
  refine
    { offset_eq := rfl
      path_eq := rfl
      file_eq := rfl
      line_text := ⟨_, rfl, ?_⟩
      line_iff := fun number => line?_ofLocation_eq_some_iff
      column_isSome_iff := present
      alignment_isSome_iff := ?_
      column_le_length := ?_
      column_le_distance := ?_
      lt_column_iff := ?_
      alignment_length := ?_
      alignment_blank := ?_ }
  · rw [String.toList_ofList]
    exact Text.isStripped_stripTerminator _
  · rw [alignment?_ofLocation, Option.isSome_map, present]
  · intro column h
    obtain ⟨-, -, rfl⟩ := column?_ofLocation_eq_some_iff.mp h
    exact Text.length_startingBefore_le_length _ _
  · intro column h
    obtain ⟨-, -, rfl⟩ := column?_ofLocation_eq_some_iff.mp h
    exact Text.length_startingBefore_le _ _
  · intro column h i inside
    obtain ⟨-, -, rfl⟩ := column?_ofLocation_eq_some_iff.mp h
    rw [Text.lt_length_startingBefore_iff, and_iff_right inside]
  · intro column blanks h aligned
    rw [alignment?_ofLocation, h, Option.map_some, Option.some.injEq] at aligned
    rw [← aligned, String.length_ofList, Text.length_alignment]
  · intro line blanks shown aligned i inside
    obtain rfl := Option.some.inj shown
    rw [alignment?_ofLocation] at aligned
    obtain ⟨column, -, rfl⟩ := Option.map_eq_some_iff.mp aligned
    rw [String.length_ofList, Text.length_alignment] at inside
    rw [String.toList_ofList, String.toList_ofList, Text.getElem?_alignment inside]

/-- Nothing is known of a location exactly if it points nowhere. Whatever a source answers, the
placement of an offset in it is the one described; its line is never zero, and it is left out for
every index from the largest number on. -/
theorem ofLocation_fields :
    (∀ location : Location, (ofLocation location).isEmpty ↔ location.offset? = none) ∧
    ∀ (source : Source) (offset : Nat),
      let placement := ofLocation (.within source offset)
      placement.Describes source offset ∧ placement.line? ≠ some 0 ∧
        ∀ index, source.lineAt? offset = some index → maxLine ≤ index →
          placement.line? = none := by
  refine ⟨?_, ?_⟩
  · intro location
    cases location with
    | nowhere => simp [isEmpty, Location.offset?]
    | within source offset => simp [isEmpty, ofLocation, empty, Location.offset?]
  · intro source offset placement
    have described : placement.Describes source offset := describes_ofLocation source offset
    refine ⟨described, ?_, ?_⟩
    · intro zero
      exact absurd ((described.line_iff 0).mp zero).1 (Nat.not_succ_le_zero 0)
    · intro index found large
      rw [Option.eq_none_iff_forall_ne_some]
      intro number numbered
      obtain ⟨positive, small, found'⟩ := (described.line_iff number).mp numbered
      have same : index = number - 1 := Option.some.inj (found.symm.trans found')
      omega

end Placement

end DiagnosticRelay
