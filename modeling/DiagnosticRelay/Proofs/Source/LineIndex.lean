import DiagnosticRelay.Proofs.Text.Lines
import DiagnosticRelay.Source.Basic

/-!
# What the line index is

`IsLineIndex` lists what is expected of the offsets at which the lines of a content begin, in terms
of the offsets and the content alone. The index of a source text has all of these properties, and
no other list of offsets has them.
-/

namespace DiagnosticRelay

/-- Offsets that cut a content into its lines. -/
structure IsLineIndex (content : String) (starts : List Nat) : Prop where
  /-- The first line begins at the beginning. -/
  head : starts.head? = some 0
  ascending : starts.Pairwise (· < ·)
  le_size : ∀ start ∈ starts, start ≤ content.utf8ByteSize
  /-- No line begins inside a character. -/
  boundary : ∀ start ∈ starts, (⟨start⟩ : String.Pos.Raw).IsValid content
  whole : (Text.cutAt content.toList starts).flatten = content.toList
  /-- A line that another one follows has one terminator, at its end. -/
  terminated : ∀ i line next, (Text.cutAt content.toList starts)[i]? = some line →
    starts[i + 1]? = some next → ∃ body ending, line = body ++ ending ∧ Text.IsPlain body ∧
      Text.IsTerminator ending (Text.startingFrom next content.toList)
  /-- The last line has no terminator. -/
  last : ∀ line, (Text.cutAt content.toList starts).getLast? = some line → Text.IsPlain line

namespace IsLineIndex

variable {content : String} {starts : List Nat}

/-- The lines that are left after some of them make up what is left of the content. -/
theorem flatten_drop_cutAt (ascending : starts.Pairwise (· < ·))
    (boundary : ∀ start ∈ starts, Text.IsBoundary content.toList start) {i next : Nat}
    (hnext : starts[i]? = some next) :
    ((Text.cutAt content.toList starts).drop i).flatten =
      Text.startingFrom next content.toList := by
  obtain ⟨hi, rfl⟩ := List.getElem?_eq_some_iff.mp hnext
  have tail : starts.drop i = starts[i] :: starts.drop (i + 1) := List.drop_eq_getElem_cons hi
  have sub : (starts[i] :: starts.drop (i + 1)).Sublist starts := tail ▸ List.drop_sublist i starts
  rw [Text.drop_cutAt, tail]
  apply Text.flatten_cutAt
  · intro offset member
    exact boundary offset (sub.mem member)
  · exact ascending.sublist sub

theorem isBoundary (h : IsLineIndex content starts) :
    ∀ start ∈ starts, Text.IsBoundary content.toList start := by
  intro start member
  apply Text.isBoundary_toList_iff.mpr
  exact h.boundary start member

theorem areLines (h : IsLineIndex content starts) :
    Text.AreLines (Text.cutAt content.toList starts) := by
  refine Text.areLines_iff.mpr ⟨?_, ?_, h.last⟩
  · intro none_left
    have nil : starts = [] := by
      rw [← List.length_eq_zero_iff, ← Text.length_cutAt content.toList, none_left]
      rfl
    exact absurd h.head (by simp [nil])
  · intro i line hline hi
    rw [Text.length_cutAt] at hi
    have hnext : starts[i + 1]? = some starts[i + 1] := List.getElem?_eq_getElem hi
    rw [flatten_drop_cutAt h.ascending h.isBoundary hnext]
    exact h.terminated i line _ hline hnext

/-- The lines are determined, and the offsets can be read off the lines. -/
theorem eq_lineStarts (h : IsLineIndex content starts) :
    starts = Text.lineStarts content.toList := by
  have lines : Text.cutAt content.toList starts = Text.lines content.toList := by
    rw [h.areLines.eq_lines, h.whole]
  have read : Text.offsetsFrom 0 (Text.cutAt content.toList starts) = starts := by
    obtain ⟨rest, rfl⟩ := List.head?_eq_some_iff.mp h.head
    exact Text.offsetsFrom_cutAt h.isBoundary h.ascending
  rw [Text.lineStarts_eq_offsetsFrom, ← lines, read]

end IsLineIndex

theorem isLineIndex_lineStarts (content : String) :
    IsLineIndex content (Text.lineStarts content.toList) := by
  have boundary : ∀ start ∈ Text.lineStarts content.toList,
      Text.IsBoundary content.toList start := by
    intro start member
    exact Text.isBoundary_of_mem_lineStarts member
  have lines : Text.AreLines (Text.cutAt content.toList (Text.lineStarts content.toList)) := by
    rw [Text.cutAt_lineStarts]
    exact Text.areLines_lines content.toList
  obtain ⟨-, inner, final⟩ := Text.areLines_iff.mp lines
  exact
    { head := rfl
      ascending := Text.pairwise_lineStarts content.toList
      le_size := by
        intro start member
        rw [← Text.byteLength_toList]
        exact (boundary start member).le_byteLength
      boundary := by
        intro start member
        apply Text.isBoundary_toList_iff.mp
        exact boundary start member
      whole := by rw [Text.cutAt_lineStarts, Text.flatten_lines]
      terminated := by
        intro i line next hline hnext
        rw [← IsLineIndex.flatten_drop_cutAt (Text.pairwise_lineStarts _) boundary hnext]
        obtain ⟨hi, -⟩ := List.getElem?_eq_some_iff.mp hnext
        exact inner i line hline (by rw [Text.length_cutAt]; exact hi)
      last := final }

/-- The index of a source text cuts it into its lines, and nothing else does. There is one line
more than there are terminators. -/
theorem isLineIndex_starts_and_unique (text : SourceText) :
    IsLineIndex text.content text.index.starts.toList ∧
      (∀ starts, IsLineIndex text.content starts → starts = text.index.starts.toList) ∧
      text.index.lineCount = 1 + Text.terminatorCount text.content.toList := by
  have starts : text.index.starts.toList = Text.lineStarts text.content.toList := rfl
  refine ⟨?_, ?_, ?_⟩
  · rw [starts]
    exact isLineIndex_lineStarts text.content
  · intro other h
    rw [starts]
    exact h.eq_lineStarts
  · calc text.index.lineCount
      _ = (Text.lineStarts text.content.toList).length := by
          rw [← starts, Array.length_toList, LineIndex.lineCount]
      _ = 1 + Text.terminatorCount text.content.toList := by
          rw [Text.length_lineStarts, Text.length_lines, Nat.add_comm]

end DiagnosticRelay
