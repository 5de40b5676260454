import DiagnosticRelay.Proofs.Text.Cut
import Mathlib.Order.Bounds.Basic

/-!
# Rounding up to a boundary

The characters that start before an offset end at the first boundary that is not before it: at the
offset itself if no character is cut there, and behind the character that is cut otherwise.
-/

namespace DiagnosticRelay.Text

theorem startingBefore_append (n : Nat) (before after : List Char) :
    startingBefore n (before ++ after) =
      startingBefore n before ++ startingBefore (n - byteLength before) after := by
  induction before generalizing n with
  | nil => simp
  | cons c before ih =>
      cases n with
      | zero => simp
      | succ n => simp [startingBefore, ih, Nat.sub_sub]

variable {text : List Char} {n : Nat}

theorem startingBefore_of_byteLength_le (h : byteLength text ≤ n) :
    startingBefore n text = text := by
  induction text generalizing n with
  | nil => simp
  | cons c rest ih =>
      have size := c.utf8Size_pos
      rw [byteLength_cons] at h
      rw [startingBefore_cons_of_pos (by omega), ih (by omega)]

theorem le_byteLength_startingBefore (h : n ≤ byteLength text) :
    n ≤ byteLength (startingBefore n text) := by
  induction text generalizing n with
  | nil => simpa using h
  | cons c rest ih =>
      cases n with
      | zero => exact Nat.zero_le _
      | succ n =>
          rw [byteLength_cons] at h
          have later := ih (show n + 1 - c.utf8Size ≤ byteLength rest by omega)
          rw [startingBefore, byteLength_cons]
          omega

/-- Nothing more starts before the next boundary than before the offset. -/
theorem startingBefore_byteLength_startingBefore (n : Nat) (text : List Char) :
    startingBefore (byteLength (startingBefore n text)) text = startingBefore n text := by
  have cut := startingBefore_byteLength_append (startingBefore n text) (startingFrom n text)
  rwa [startingBefore_append_startingFrom] at cut

theorem byteLength_startingBefore_le (n : Nat) (text : List Char) :
    byteLength (startingBefore n text) ≤ byteLength text := by
  have split := congrArg byteLength (startingBefore_append_startingFrom n text)
  rw [byteLength_append] at split
  omega

/-- The characters in front of an offset take no more bytes than those in front of any boundary
behind it. -/
theorem byteLength_startingBefore_append_le {before : List Char} (h : n ≤ byteLength before)
    (after : List Char) : byteLength (startingBefore n (before ++ after)) ≤ byteLength before := by
  rw [startingBefore_append, Nat.sub_eq_zero_of_le h, startingBefore_zero, List.append_nil]
  exact byteLength_startingBefore_le n before

theorem isLeast_byteLength_startingBefore (h : n ≤ byteLength text) :
    IsLeast {stop | n ≤ stop ∧ IsBoundary text stop} (byteLength (startingBefore n text)) := by
  refine ⟨⟨le_byteLength_startingBefore h, ?_⟩, ?_⟩
  · exact ⟨_, _, (startingBefore_append_startingFrom n text).symm, rfl⟩
  · rintro stop ⟨behind, before, after, rfl, rfl⟩
    exact byteLength_startingBefore_append_le behind after

/-- An offset inside a character is rounded up to the end of the character. -/
theorem startingBefore_inside {before after : List Char} {c : Char} (hn : byteLength before < n)
    (hc : n ≤ byteLength before + c.utf8Size) :
    startingBefore n (before ++ c :: after) = before ++ [c] := by
  rw [startingBefore_append, startingBefore_of_byteLength_le (Nat.le_of_lt hn),
    startingBefore_cons_of_pos (Nat.sub_pos_of_lt hn),
    Nat.sub_eq_zero_of_le (show n - byteLength before ≤ c.utf8Size by omega), startingBefore_zero]

/-- On pieces of a text, only the piece that holds an offset is cut by it. -/
theorem startingBefore_flatten {pieces : List (List Char)} {i : Nat} {piece : List Char}
    (hpiece : pieces[i]? = some piece) (hn : n ≤ byteLength piece) :
    startingBefore (byteLength (pieces.take i).flatten + n) pieces.flatten =
      (pieces.take i).flatten ++ startingBefore n piece := by
  rw [flatten_eq_take_append hpiece, startingBefore_append,
    startingBefore_of_byteLength_le (Nat.le_add_right _ _), Nat.add_sub_cancel_left,
    startingBefore_append, Nat.sub_eq_zero_of_le hn, startingBefore_zero, List.append_nil]

/-- A boundary is an offset that is not changed by rounding. -/
theorem isBoundary_iff_byteLength_startingBefore :
    IsBoundary text n ↔ byteLength (startingBefore n text) = n := by
  constructor
  · rintro ⟨before, after, rfl, rfl⟩
    rw [startingBefore_byteLength_append]
  · intro same
    exact ⟨_, _, (startingBefore_append_startingFrom n text).symm, same.symm⟩

/-- A boundary on a piece of a text is a boundary of the piece. -/
theorem isBoundary_of_flatten {pieces : List (List Char)} {i : Nat} {piece : List Char}
    (hpiece : pieces[i]? = some piece) (hn : n ≤ byteLength piece)
    (h : IsBoundary pieces.flatten (byteLength (pieces.take i).flatten + n)) :
    IsBoundary piece n := by
  rw [isBoundary_iff_byteLength_startingBefore, startingBefore_flatten hpiece hn,
    byteLength_append] at h
  exact isBoundary_iff_byteLength_startingBefore.mpr (Nat.add_left_cancel h)

end DiagnosticRelay.Text
