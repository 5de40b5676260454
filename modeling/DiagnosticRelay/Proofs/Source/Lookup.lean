import DiagnosticRelay.Proofs.Text.Lines
import DiagnosticRelay.Proofs.Text.Place
import DiagnosticRelay.Source.LineIndex

/-!
# Finding a line in the index

The bisection finds the number of entries up to a bound, since it keeps an interval with smaller
entries below it and larger ones above it. Together with the order of the line starts this says
what the index answers at an offset that lies on a line, and in particular at every place.
-/

namespace DiagnosticRelay

/-! ## Bisection -/

/-- Entries below `lo` are at most the bound and entries from `hi` on are above it. Bisection
keeps this and ends with both positions equal. -/
theorem lt_bisect_iff {entries : Array Nat} {bound lo hi : Nat} {h : hi ≤ entries.size}
    (ascending : ∀ i j (hj : j < entries.size) (hij : i ≤ j), entries[i] ≤ entries[j])
    (hle : lo ≤ hi) (below : ∀ i (hi : i < entries.size), i < lo → entries[i] ≤ bound)
    (above : ∀ i (hi' : i < entries.size), hi ≤ i → bound < entries[i])
    {i : Nat} (hi' : i < entries.size) :
    i < bisect entries bound lo hi h ↔ entries[i] ≤ bound := by
  fun_induction bisect entries bound lo hi h with
  | case1 lo hi h hlt mid hmid small ih =>
      refine ih ascending (by omega) ?_ above
      intro j hj hjmid
      exact Nat.le_trans (ascending j mid hmid (by omega)) small
  | case2 lo hi h hlt mid hmid large ih =>
      refine ih ascending (by omega) below ?_
      intro j hj hmidj
      exact Nat.lt_of_lt_of_le (Nat.lt_of_not_le large) (ascending mid j hj hmidj)
  | case3 lo hi h hlt =>
      constructor
      · intro hilo
        exact below i hi' hilo
      · intro small
        by_contra hloi
        exact Nat.not_lt_of_le small (above i hi' (by omega))

theorem lt_countUpTo_iff {entries : Array Nat}
    (ascending : ∀ i j (hj : j < entries.size) (hij : i ≤ j), entries[i] ≤ entries[j])
    (bound : Nat) {i : Nat} (hi : i < entries.size) :
    i < countUpTo entries bound ↔ entries[i] ≤ bound := by
  refine lt_bisect_iff ascending (Nat.zero_le _) ?_ ?_ hi
  · intro j _ hj
    exact absurd hj (Nat.not_lt_zero j)
  · intro j hj hsize
    exact absurd hj (Nat.not_lt_of_le hsize)

namespace LineIndex

variable {text : List Char} {offset line start : Nat}

@[simp] theorem size_starts_ofText (text : List Char) :
    (ofText text).starts.size = (Text.lines text).length := by
  simp [ofText]

@[simp] theorem byteLength_ofText (text : List Char) :
    (ofText text).byteLength = Text.byteLength text := rfl

theorem starts_ofText_ascending (i j : Nat) (hj : j < (ofText text).starts.size) (hij : i ≤ j) :
    (ofText text).starts[i] ≤ (ofText text).starts[j] := by
  rcases Nat.lt_or_eq_of_le hij with less | rfl
  · have sorted := Text.pairwise_lineStarts text
    have hj' : j < (Text.lineStarts text).length := by simpa using hj
    exact Nat.le_of_lt (List.pairwise_iff_getElem.mp sorted i j (Nat.lt_trans less hj') hj' less)
  · exact Nat.le_refl _

/-- The line of an offset is the one that begins at or before it while the next one, if there is
one, begins after it. -/
theorem lineOf_ofText (hstart : (Text.lineStarts text)[line]? = some start) (hle : start ≤ offset)
    (hnext : ∀ next, (Text.lineStarts text)[line + 1]? = some next → offset < next) :
    (ofText text).lineOf offset = line := by
  obtain ⟨hline, rfl⟩ := List.getElem?_eq_some_iff.mp hstart
  have hsize : line < (ofText text).starts.size := by simpa using hline
  have reached : line < countUpTo (ofText text).starts offset :=
    (lt_countUpTo_iff starts_ofText_ascending offset hsize).mpr hle
  have passed : ¬line + 1 < countUpTo (ofText text).starts offset := by
    intro hcount
    have hnextsize : line + 1 < (ofText text).starts.size :=
      Nat.lt_of_lt_of_le hcount (countUpTo_le_size _ _)
    have small := (lt_countUpTo_iff starts_ofText_ascending offset hnextsize).mp hcount
    exact Nat.not_lt_of_le small (hnext _ (List.getElem?_eq_getElem (by simpa using hnextsize)))
  unfold lineOf
  omega

theorem lineStart_ofText (hline : (ofText text).lineOf offset = line)
    (hstart : (Text.lineStarts text)[line]? = some start) :
    (ofText text).lineStart offset = start := by
  obtain ⟨hsize, rfl⟩ := List.getElem?_eq_some_iff.mp hstart
  subst hline
  rfl

/-- The text of a line is the piece that the line starts cut out. -/
theorem lineText_ofText {chars : List Char} (hoffset : offset ≤ Text.byteLength text)
    (hline : (ofText text).lineOf offset = line)
    (hchars : (Text.lines text)[line]? = some chars) :
    (ofText text).lineText offset = chars := by
  have hsize : line < (Text.lineStarts text).length := by
    simpa using (List.getElem?_eq_some_iff.mp hchars).1
  have hstart : (Text.lineStarts text)[line]? = some (Text.lineStarts text)[line] :=
    List.getElem?_eq_getElem hsize
  have piece := Text.getElem?_cutAt text hstart
  rw [Text.cutAt_lineStarts, hchars, Option.some.injEq] at piece
  rw [lineText, byteLength_ofText, if_pos hoffset, lineStart_ofText hline hstart, hline, piece,
    Text.between]
  simp [ofText]

/-! ## Places -/

variable {column : Nat}

theorem placeOffset_le (place : Text.IsPlace (Text.lines text) line column) :
    Text.placeOffset (Text.lines text) line column ≤ Text.byteLength text := by
  simpa using place.isBoundary.le_byteLength

theorem lineOf_placeOffset (place : Text.IsPlace (Text.lines text) line column) :
    (ofText text).lineOf (Text.placeOffset (Text.lines text) line column) = line := by
  refine lineOf_ofText (Text.getElem?_lineStarts place.line_lt) (Nat.le_add_right _ _) ?_
  intro next hnext
  have hnextline : line + 1 < (Text.lines text).length := by
    simpa using (List.getElem?_eq_some_iff.mp hnext).1
  rw [Text.getElem?_lineStarts hnextline, Option.some.injEq] at hnext
  exact hnext ▸ place.placeOffset_lt hnextline

theorem lineAt?_placeOffset (place : Text.IsPlace (Text.lines text) line column) :
    (ofText text).lineAt? (Text.placeOffset (Text.lines text) line column) = some line := by
  rw [lineAt?, byteLength_ofText, if_pos (placeOffset_le place), lineOf_placeOffset place]

theorem lineStart_placeOffset (place : Text.IsPlace (Text.lines text) line column) :
    (ofText text).lineStart (Text.placeOffset (Text.lines text) line column) =
      Text.byteLength ((Text.lines text).take line).flatten :=
  lineStart_ofText (lineOf_placeOffset place) (Text.getElem?_lineStarts place.line_lt)

theorem lineText_placeOffset {chars : List Char}
    (place : Text.IsPlace (Text.lines text) line column)
    (hchars : (Text.lines text)[line]? = some chars) :
    (ofText text).lineText (Text.placeOffset (Text.lines text) line column) = chars :=
  lineText_ofText (placeOffset_le place) (lineOf_placeOffset place) hchars

end LineIndex

end DiagnosticRelay
