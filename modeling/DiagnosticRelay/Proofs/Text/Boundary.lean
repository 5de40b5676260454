import DiagnosticRelay.Text.Bytes
import Mathlib.Data.List.Basic

/-!
# Boundaries between characters

An offset is a boundary of a text if the text splits there into whole characters. At a boundary
the two cuts of a text are exactly the two halves of this split, so offsets and lists of
characters determine each other. The measure and the boundaries are those of the UTF-8 form that
strings have at run time.
-/

namespace DiagnosticRelay.Text

/-! ## Bytes and characters -/

theorem byteLength_eq_utf8ByteSize (text : List Char) :
    byteLength text = (String.ofList text).utf8ByteSize := by
  induction text with
  | nil => rfl
  | cons c rest ih =>
      rw [← List.singleton_append, String.ofList_append, String.utf8ByteSize_append,
        byteLength_append, ih, ← String.singleton_eq_ofList, String.utf8ByteSize_singleton]
      simp

/-- The bytes of a string are those of its characters. -/
@[simp] theorem byteLength_toList (s : String) : byteLength s.toList = s.utf8ByteSize := by
  rw [byteLength_eq_utf8ByteSize, String.ofList_toList]

@[simp] theorem byteLength_eq_zero_iff {text : List Char} : byteLength text = 0 ↔ text = [] := by
  cases text with
  | nil => simp
  | cons c rest =>
      have := c.utf8Size_pos
      simp only [byteLength_cons, reduceCtorEq, iff_false]
      omega

theorem byteLength_pos_iff {text : List Char} : 0 < byteLength text ↔ text ≠ [] := by
  rw [Nat.pos_iff_ne_zero, Ne, byteLength_eq_zero_iff]

/-- Every character takes a byte at least. -/
theorem length_le_byteLength (text : List Char) : text.length ≤ byteLength text := by
  induction text with
  | nil => exact Nat.le_refl _
  | cons c rest ih =>
      have := c.utf8Size_pos
      rw [List.length_cons, byteLength_cons]
      omega

/-- A longer beginning of a text takes more bytes. -/
theorem byteLength_take_lt {text : List Char} {i j : Nat} (hij : i < j) (hi : i < text.length) :
    byteLength (text.take i) < byteLength (text.take j) := by
  obtain ⟨more, split⟩ := List.take_prefix_take_left (l := text) (Nat.le_of_lt hij)
  have longer : more ≠ [] := by
    rintro rfl
    have lengths := congrArg List.length split
    simp only [List.append_nil, List.length_take] at lengths
    omega
  rw [← split, byteLength_append]
  exact Nat.lt_add_of_pos_right (byteLength_pos_iff.mpr longer)

/-! ## Cuts at the end of a beginning -/

theorem startingBefore_cons_of_pos {n : Nat} (hn : 0 < n) (c : Char) (rest : List Char) :
    startingBefore n (c :: rest) = c :: startingBefore (n - c.utf8Size) rest := by
  cases n with
  | zero => exact absurd hn (Nat.lt_irrefl 0)
  | succ n => rfl

theorem startingFrom_cons_of_pos {n : Nat} (hn : 0 < n) (c : Char) (rest : List Char) :
    startingFrom n (c :: rest) = startingFrom (n - c.utf8Size) rest := by
  cases n with
  | zero => exact absurd hn (Nat.lt_irrefl 0)
  | succ n => rfl

@[simp] theorem startingBefore_byteLength_append (before after : List Char) :
    startingBefore (byteLength before) (before ++ after) = before := by
  induction before with
  | nil => simp
  | cons c before ih =>
      have hpos : 0 < byteLength (c :: before) := byteLength_pos_iff.mpr (List.cons_ne_nil c before)
      rw [List.cons_append, startingBefore_cons_of_pos hpos, byteLength_cons,
        Nat.add_sub_cancel_left, ih]

@[simp] theorem startingFrom_byteLength_append (before after : List Char) :
    startingFrom (byteLength before) (before ++ after) = after := by
  induction before with
  | nil => simp
  | cons c before ih =>
      have hpos : 0 < byteLength (c :: before) := byteLength_pos_iff.mpr (List.cons_ne_nil c before)
      rw [List.cons_append, startingFrom_cons_of_pos hpos, byteLength_cons,
        Nat.add_sub_cancel_left, ih]

theorem startingBefore_byteLength_take (text : List Char) (n : Nat) :
    startingBefore (byteLength (text.take n)) text = text.take n := by
  have cut := startingBefore_byteLength_append (text.take n) (text.drop n)
  rwa [List.take_append_drop] at cut

/-! ## Boundaries -/

/-- An offset at which no character is cut in two. -/
def IsBoundary (text : List Char) (offset : Nat) : Prop :=
  ∃ before after, text = before ++ after ∧ offset = byteLength before

/-- The boundaries of a text are the valid positions of the string. -/
theorem isBoundary_toList_iff {s : String} {offset : Nat} :
    IsBoundary s.toList offset ↔ (⟨offset⟩ : String.Pos.Raw).IsValid s := by
  rw [String.Pos.Raw.isValid_iff_exists_append]
  constructor
  · rintro ⟨before, after, hs, rfl⟩
    refine ⟨.ofList before, .ofList after, ?_, ?_⟩
    · rw [← String.ofList_append, ← hs, String.ofList_toList]
    · rw [String.Pos.Raw.ext_iff, String.byteIdx_rawEndPos, byteLength_eq_utf8ByteSize]
  · rintro ⟨before, after, rfl, hp⟩
    refine ⟨before.toList, after.toList, String.toList_append, ?_⟩
    rw [byteLength_toList, ← String.byteIdx_rawEndPos, ← hp]

namespace IsBoundary

theorem le_byteLength {text : List Char} {offset : Nat} (h : IsBoundary text offset) :
    offset ≤ byteLength text := by
  obtain ⟨before, after, rfl, rfl⟩ := h
  rw [byteLength_append]
  exact Nat.le_add_right _ _

theorem byteLength_self (text : List Char) : IsBoundary text (byteLength text) :=
  ⟨text, [], (List.append_nil text).symm, rfl⟩

/-- Two boundaries in order split a text into three parts. -/
theorem exists_split {text : List Char} {start stop : Nat} (hstart : IsBoundary text start)
    (hstop : IsBoundary text stop) (hle : start ≤ stop) :
    ∃ before middle after, text = before ++ middle ++ after ∧ start = byteLength before ∧
      stop = byteLength before + byteLength middle := by
  obtain ⟨before, rest, rfl, rfl⟩ := hstart
  obtain ⟨front, after, htext, rfl⟩ := hstop
  rcases List.append_eq_append_iff.mp htext with ⟨middle, rfl, hrest⟩ | ⟨middle, rfl, hafter⟩
  · refine ⟨before, middle, after, ?_, rfl, byteLength_append before middle⟩
    rw [hrest, List.append_assoc]
  · -- The second boundary cannot come first, so there is nothing in between.
    have hnil : middle = [] := by
      rw [byteLength_append] at hle
      exact byteLength_eq_zero_iff.mp (by omega)
    subst hnil
    exact ⟨front, [], rest, by simp, by simp, by simp⟩

end IsBoundary

end DiagnosticRelay.Text
