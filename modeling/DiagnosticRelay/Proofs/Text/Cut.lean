import DiagnosticRelay.Proofs.Text.Boundary

/-!
# Cutting a text at offsets

`cutAt` cuts a text at a list of offsets, `offsetsFrom` reads the offsets off the pieces. On
boundaries in ascending order they undo each other, and the pieces together are the text again.
Nothing here knows where lines end.
-/

namespace DiagnosticRelay.Text

/-- The characters that start at byte `start` or later, but before byte `stop`. -/
def between (start stop : Nat) (text : List Char) : List Char :=
  startingBefore (stop - start) (startingFrom start text)

/-- The pieces of a text that begin at the given offsets. Each piece reaches to the beginning of
the next one, the last piece to the end of the text. -/
def cutAt (text : List Char) : List Nat → List (List Char)
  | [] => []
  | [start] => [between start (byteLength text) text]
  | start :: stop :: rest => between start stop text :: cutAt text (stop :: rest)

/-- The offsets at which pieces begin, if the first one begins at `start`. -/
def offsetsFrom (start : Nat) : List (List Char) → List Nat
  | [] => []
  | piece :: rest => start :: offsetsFrom (start + byteLength piece) rest

@[simp] theorem length_cutAt (text : List Char) (offsets : List Nat) :
    (cutAt text offsets).length = offsets.length := by
  fun_induction cutAt text offsets with
  | case1 => rfl
  | case2 start => rfl
  | case3 start stop rest ih => simpa using ih

@[simp] theorem length_offsetsFrom (start : Nat) (pieces : List (List Char)) :
    (offsetsFrom start pieces).length = pieces.length := by
  induction pieces generalizing start with
  | nil => rfl
  | cons piece rest ih => rw [offsetsFrom, List.length_cons, ih, List.length_cons]

/-! ## One piece -/

@[simp] theorem between_append (before middle after : List Char) :
    between (byteLength before) (byteLength before + byteLength middle)
      (before ++ middle ++ after) = middle := by
  rw [between, Nat.add_sub_cancel_left, List.append_assoc, startingFrom_byteLength_append,
    startingBefore_byteLength_append]

variable {text : List Char} {start stop : Nat}

theorem byteLength_between (hstart : IsBoundary text start) (hstop : IsBoundary text stop)
    (hle : start ≤ stop) : start + byteLength (between start stop text) = stop := by
  obtain ⟨before, middle, after, rfl, rfl, rfl⟩ := hstart.exists_split hstop hle
  rw [between_append]

theorem between_append_startingFrom (hstart : IsBoundary text start)
    (hstop : IsBoundary text stop) (hle : start ≤ stop) :
    between start stop text ++ startingFrom stop text = startingFrom start text := by
  obtain ⟨before, middle, after, rfl, rfl, rfl⟩ := hstart.exists_split hstop hle
  rw [between_append, ← byteLength_append, startingFrom_byteLength_append, List.append_assoc,
    startingFrom_byteLength_append]

theorem between_byteLength (hstart : IsBoundary text start) :
    between start (byteLength text) text = startingFrom start text := by
  have whole := between_append_startingFrom hstart (.byteLength_self text) hstart.le_byteLength
  have none_left : startingFrom (byteLength text) text = [] := by
    simpa using startingFrom_byteLength_append text []
  rwa [none_left, List.append_nil] at whole

/-! ## All pieces -/

/-- The pieces of a cut are the ones that the offsets were read off. -/
theorem cutAt_offsetsFrom (before : List Char) (pieces : List (List Char)) :
    cutAt (before ++ pieces.flatten) (offsetsFrom (byteLength before) pieces) = pieces := by
  induction pieces generalizing before with
  | nil => rfl
  | cons piece rest ih =>
      have later := ih (before ++ piece)
      have first := between_append before piece rest.flatten
      rw [byteLength_append, List.append_assoc] at later
      rw [List.append_assoc] at first
      cases rest with
      | nil => simpa [offsetsFrom, cutAt] using first
      | cons next rest =>
          rw [offsetsFrom, offsetsFrom, cutAt, ← offsetsFrom, List.flatten_cons, first, later]

/-- The offsets read off the pieces are the ones of the cut. -/
theorem offsetsFrom_cutAt {rest : List Nat}
    (boundaries : ∀ offset ∈ start :: rest, IsBoundary text offset)
    (ascending : (start :: rest).Pairwise (· < ·)) :
    offsetsFrom start (cutAt text (start :: rest)) = start :: rest := by
  induction rest generalizing start with
  | nil => rfl
  | cons stop rest ih =>
      obtain ⟨above, ascending⟩ := List.pairwise_cons.mp ascending
      have width : start + byteLength (between start stop text) = stop :=
        byteLength_between (boundaries start (by simp)) (boundaries stop (by simp))
          (Nat.le_of_lt (above stop (by simp)))
      rw [cutAt, offsetsFrom, width, ih ?_ ascending]
      intro offset member
      exact boundaries offset (List.mem_cons_of_mem start member)

/-- Nothing is lost by cutting a text, save what comes before the first piece. -/
theorem flatten_cutAt {rest : List Nat}
    (boundaries : ∀ offset ∈ start :: rest, IsBoundary text offset)
    (ascending : (start :: rest).Pairwise (· < ·)) :
    (cutAt text (start :: rest)).flatten = startingFrom start text := by
  induction rest generalizing start with
  | nil => simpa [cutAt] using between_byteLength (boundaries start (by simp))
  | cons stop rest ih =>
      obtain ⟨above, ascending⟩ := List.pairwise_cons.mp ascending
      rw [cutAt, List.flatten_cons, ih ?_ ascending]
      · exact between_append_startingFrom (boundaries start (by simp)) (boundaries stop (by simp))
          (Nat.le_of_lt (above stop (by simp)))
      · intro offset member
        exact boundaries offset (List.mem_cons_of_mem start member)

theorem drop_cutAt (text : List Char) (offsets : List Nat) (i : Nat) :
    (cutAt text offsets).drop i = cutAt text (offsets.drop i) := by
  induction offsets generalizing i with
  | nil => simp [cutAt]
  | cons start rest ih =>
      cases i with
      | zero => rfl
      | succ i =>
          rw [List.drop_succ_cons, ← ih]
          cases rest <;> simp [cutAt]

theorem getElem?_cutAt (text : List Char) {offsets : List Nat} {i : Nat}
    (h : offsets[i]? = some start) :
    (cutAt text offsets)[i]? =
      some (between start (offsets[i + 1]?.getD (byteLength text)) text) := by
  fun_induction cutAt text offsets generalizing i with
  | case1 => exact absurd h (by simp)
  | case2 first =>
      cases i with
      | zero => simp_all
      | succ i => exact absurd h (by simp)
  | case3 first stop rest ih =>
      cases i with
      | zero => simp_all
      | succ i => exact ih h

/-- A piece begins where the pieces before it end. -/
theorem getElem?_offsetsFrom (start : Nat) {pieces : List (List Char)} {i : Nat}
    (hi : i < pieces.length) :
    (offsetsFrom start pieces)[i]? = some (start + byteLength (pieces.take i).flatten) := by
  induction pieces generalizing start i with
  | nil => exact absurd hi (Nat.not_lt_zero i)
  | cons piece rest ih =>
      cases i with
      | zero => simp [offsetsFrom]
      | succ i =>
          rw [offsetsFrom, List.getElem?_cons_succ, ih _ (Nat.lt_of_succ_lt_succ hi)]
          simp [Nat.add_assoc]

/-- A text splits into the pieces above one of them, this piece, and those below it. -/
theorem flatten_eq_take_append {pieces : List (List Char)} {i : Nat} {piece : List Char}
    (h : pieces[i]? = some piece) :
    pieces.flatten =
      (pieces.take i).flatten ++ (piece ++ (pieces.drop (i + 1)).flatten) := by
  obtain ⟨hi, rfl⟩ := List.getElem?_eq_some_iff.mp h
  rw [← List.flatten_cons, ← List.drop_eq_getElem_cons hi, ← List.flatten_append,
    List.take_append_drop]

/-- Pieces begin at boundaries of the text that they make up. -/
theorem isBoundary_flatten_take (pieces : List (List Char)) (i : Nat) :
    IsBoundary pieces.flatten (byteLength (pieces.take i).flatten) := by
  refine ⟨(pieces.take i).flatten, (pieces.drop i).flatten, ?_, rfl⟩
  rw [← List.flatten_append, List.take_append_drop]

end DiagnosticRelay.Text
