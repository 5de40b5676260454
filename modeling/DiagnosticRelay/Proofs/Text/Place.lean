import DiagnosticRelay.Proofs.Text.Cut

/-!
# Places in lines

A place is a character of a line, or the end of the last line. Places are counted by line and
column, boundaries of the text by bytes; both name the same points of the text, in the same order.
The lines may be any pieces of a text.
-/

namespace DiagnosticRelay.Text

/-- A line and a column at which a character stands, or at which the last line ends. The end of
any other line is the beginning of the next one and counts as a place of that line only. -/
def IsPlace (lines : List (List Char)) (line column : Nat) : Prop :=
  ∃ chars, lines[line]? = some chars ∧
    (column < chars.length ∨ (line + 1 = lines.length ∧ column = chars.length))

/-- The number of bytes before a place: those of the lines above it, and those of the characters
in front of it on its own line. -/
def placeOffset (lines : List (List Char)) (line column : Nat) : Nat :=
  byteLength (lines.take line).flatten + byteLength ((lines[line]?.getD []).take column)

@[simp] theorem placeOffset_cons_succ (first : List Char) (rest : List (List Char))
    (line column : Nat) :
    placeOffset (first :: rest) (line + 1) column =
      byteLength first + placeOffset rest line column := by
  simp [placeOffset, Nat.add_assoc]

theorem IsPlace.line_lt {lines : List (List Char)} {line column : Nat}
    (h : IsPlace lines line column) : line < lines.length := by
  obtain ⟨chars, hchars, -⟩ := h
  exact (List.getElem?_eq_some_iff.mp hchars).1

theorem IsPlace.isBoundary {lines : List (List Char)} {line column : Nat}
    (h : IsPlace lines line column) : IsBoundary lines.flatten (placeOffset lines line column) := by
  obtain ⟨chars, hchars, -⟩ := h
  refine ⟨(lines.take line).flatten ++ chars.take column,
    chars.drop column ++ (lines.drop (line + 1)).flatten, ?_, ?_⟩
  · rw [flatten_eq_take_append hchars, List.append_assoc, ← List.append_assoc (chars.take column),
      List.take_append_drop]
  · rw [placeOffset, hchars, Option.getD_some, byteLength_append]

theorem IsPlace.cons {rest : List (List Char)} {line column : Nat}
    (h : IsPlace rest line column) (first : List Char) :
    IsPlace (first :: rest) (line + 1) column := by
  obtain ⟨chars, hchars, hcolumn⟩ := h
  exact ⟨chars, hchars, by simpa using hcolumn⟩

/-- Every boundary is a place of some line. -/
theorem exists_isPlace {lines : List (List Char)} (nonempty : lines ≠ []) {offset : Nat}
    (h : IsBoundary lines.flatten offset) :
    ∃ line column, IsPlace lines line column ∧ offset = placeOffset lines line column := by
  obtain ⟨before, after, split, rfl⟩ := h
  induction lines generalizing before with
  | nil => exact absurd rfl nonempty
  | cons first rest ih =>
      -- The end of the first line counts as past it, since it is the beginning of the next one.
      have cases : (∃ more, before = first ++ more ∧ rest.flatten = more ++ after) ∨
          ∃ more, more ≠ [] ∧ first = before ++ more := by
        rw [List.flatten_cons] at split
        rcases List.append_eq_append_iff.mp split with past | ⟨more, inside, hafter⟩
        · exact Or.inl past
        · by_cases hmore : more = []
          · subst hmore
            exact Or.inl ⟨[], by simpa using inside.symm, by simpa using hafter.symm⟩
          · exact Or.inr ⟨more, hmore, inside⟩
      rcases cases with ⟨more, rfl, hrest⟩ | ⟨more, hmore, rfl⟩
      · by_cases single : rest = []
        · subst single
          obtain ⟨rfl, -⟩ := List.append_eq_nil_iff.mp hrest.symm
          exact ⟨0, first.length, ⟨first, rfl, Or.inr ⟨rfl, rfl⟩⟩, by simp [placeOffset]⟩
        · obtain ⟨line, column, place, offset⟩ := ih single more hrest
          refine ⟨line + 1, column, place.cons first, ?_⟩
          rw [placeOffset_cons_succ, byteLength_append, offset]
      · refine ⟨0, before.length, ⟨before ++ more, rfl, Or.inl ?_⟩, by simp [placeOffset]⟩
        rw [List.length_append]
        exact Nat.lt_add_of_pos_right (List.length_pos_iff.mpr hmore)

/-! ## Order -/

theorem byteLength_flatten_take_succ {lines : List (List Char)} {line : Nat} {chars : List Char}
    (h : lines[line]? = some chars) :
    byteLength (lines.take (line + 1)).flatten =
      byteLength (lines.take line).flatten + byteLength chars := by
  rw [List.take_add_one, h, List.flatten_append, byteLength_append]
  simp

theorem byteLength_flatten_take_le {lines : List (List Char)} {i j : Nat} (hij : i ≤ j) :
    byteLength (lines.take i).flatten ≤ byteLength (lines.take j).flatten := by
  obtain ⟨more, split⟩ := List.take_prefix_take_left (l := lines) hij
  rw [← split, List.flatten_append, byteLength_append]
  exact Nat.le_add_right _ _

/-- A place on a line that another one follows comes before the end of the line. -/
theorem IsPlace.placeOffset_lt {lines : List (List Char)} {line column : Nat}
    (h : IsPlace lines line column) (hline : line + 1 < lines.length) :
    placeOffset lines line column < byteLength (lines.take (line + 1)).flatten := by
  obtain ⟨chars, hchars, hcolumn⟩ := h
  have inside : column < chars.length := by omega
  have taken := byteLength_take_lt inside inside
  rw [List.take_length] at taken
  rw [placeOffset, hchars, Option.getD_some, byteLength_flatten_take_succ hchars]
  exact Nat.add_lt_add_left taken _

theorem placeOffset_lt_of_lex {lines : List (List Char)} {line line' column column' : Nat}
    (h : IsPlace lines line column) (h' : IsPlace lines line' column')
    (before : line < line' ∨ (line = line' ∧ column < column')) :
    placeOffset lines line column < placeOffset lines line' column' := by
  rcases before with above | ⟨rfl, left⟩
  · have hline' := h'.line_lt
    calc placeOffset lines line column
      _ < byteLength (lines.take (line + 1)).flatten := h.placeOffset_lt (by omega)
      _ ≤ byteLength (lines.take line').flatten := byteLength_flatten_take_le above
      _ ≤ placeOffset lines line' column' := Nat.le_add_right _ _
  · obtain ⟨chars, hchars, hcolumn⟩ := h
    obtain ⟨chars', hchars', hcolumn'⟩ := h'
    obtain rfl : chars = chars' := Option.some.inj (hchars.symm.trans hchars')
    have inside : column < chars.length := by omega
    rw [placeOffset, placeOffset, hchars, Option.getD_some]
    exact Nat.add_lt_add_left (byteLength_take_lt left inside) _

/-- Offsets are ordered as their places are, by line first. -/
theorem placeOffset_lt_iff {lines : List (List Char)} {line line' column column' : Nat}
    (h : IsPlace lines line column) (h' : IsPlace lines line' column') :
    placeOffset lines line column < placeOffset lines line' column' ↔
      line < line' ∨ (line = line' ∧ column < column') := by
  constructor
  · intro less
    by_contra not_before
    by_cases same : line = line' ∧ column = column'
    · obtain ⟨rfl, rfl⟩ := same
      exact Nat.lt_irrefl _ less
    · exact Nat.lt_asymm less (placeOffset_lt_of_lex h' h (by omega))
  · exact placeOffset_lt_of_lex h h'

end DiagnosticRelay.Text
