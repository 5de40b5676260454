import DiagnosticRelay.Proofs.Text.Lines
import DiagnosticRelay.Proofs.Text.Strip

/-!
# The ends of lines

A line is shown without its terminator. Taking it off leaves the body of the line, unless the line
ends in a carriage return alone, which stays. A carriage return and the line feed behind it always
end one line together, whatever stands around them: lines of a text are found in each half of it,
as long as the halves do not cut such a pair.
-/

namespace DiagnosticRelay.Text

variable {text chars body : List Char} {i : Nat}

/-! ## Without a terminator -/

theorem stripTerminator_eq_self (feed : '\n' ∉ text) (page : '\x0c' ∉ text) :
    stripTerminator text = text := by
  refine (IsStripped.eq_stripTerminator (.inr (.inr (.inr ⟨rfl, ?_, ?_⟩)))).symm
  · exact fun last => feed (List.mem_of_getLast? last)
  · exact fun last => page (List.mem_of_getLast? last)

/-- Whatever the text is, one terminator or nothing stands behind what is shown of it. -/
theorem exists_stripTerminator_append (text : List Char) :
    ∃ ending, text = stripTerminator text ++ ending ∧
      (ending = [] ∨ ending = ['\r', '\n'] ∨ ending = ['\n'] ∨ ending = ['\x0c']) := by
  rcases isStripped_stripTerminator text with pair | ⟨feed, -⟩ | page | ⟨whole, -⟩
  · exact ⟨_, pair, .inr (.inl rfl)⟩
  · exact ⟨_, feed, .inr (.inr (.inl rfl))⟩
  · exact ⟨_, page, .inr (.inr (.inr rfl))⟩
  · exact ⟨[], by rw [← whole, List.append_nil], .inl rfl⟩

/-- The last line is plain, and each of the others ends in a terminator for what follows it. -/
theorem body_of_getElem?_lines (h : (lines text)[i]? = some chars) :
    (i + 1 = (lines text).length ∧ IsPlain chars) ∨
      (i + 1 < (lines text).length ∧ ∃ body ending, chars = body ++ ending ∧ IsPlain body ∧
        IsTerminator ending ((lines text).drop (i + 1)).flatten) := by
  obtain ⟨-, inner, final⟩ := areLines_iff.mp (areLines_lines text)
  obtain ⟨hi, -⟩ := List.getElem?_eq_some_iff.mp h
  rcases Nat.lt_or_eq_of_le (Nat.succ_le_of_lt hi) with more | last
  · exact .inr ⟨more, inner i chars h more⟩
  · refine .inl ⟨last, final chars ?_⟩
    rw [List.getLast?_eq_getElem?, ← last]
    exact h

/-- Terminators end in a character of one byte. -/
theorem IsTerminator.exists_concat {ending rest : List Char} (ends : IsTerminator ending rest) :
    ∃ front last, ending = front ++ [last] ∧ last.utf8Size = 1 := by
  rcases ends with rfl | rfl | rfl | ⟨rfl, -⟩
  · exact ⟨['\r'], '\n', rfl, rfl⟩
  · exact ⟨[], '\n', rfl, rfl⟩
  · exact ⟨[], '\x0c', rfl, rfl⟩
  · exact ⟨[], '\r', rfl, rfl⟩

/-- A terminator is taken off a body, unless it is a carriage return alone. -/
theorem stripTerminator_append {ending rest : List Char} (plain : IsPlain body)
    (ends : IsTerminator ending rest) :
    stripTerminator (body ++ ending) = if ending = ['\r'] then body ++ ending else body := by
  rcases ends with rfl | rfl | rfl | ⟨rfl, -⟩
  · rw [if_neg (by decide)]
    exact (IsStripped.eq_stripTerminator (.inl rfl)).symm
  · have kept : body.getLast? ≠ some '\r' := fun last => plain.2.2 (List.mem_of_getLast? last)
    rw [if_neg (by decide)]
    exact (IsStripped.eq_stripTerminator (.inr (.inl ⟨rfl, kept⟩))).symm
  · rw [if_neg (by decide)]
    exact (IsStripped.eq_stripTerminator (.inr (.inr (.inl rfl)))).symm
  · rw [if_pos rfl]
    apply stripTerminator_eq_self
    · simp [plain.1]
    · simp [plain.2.1]

/-- A line is shown whole, if it is the last one or ends in a carriage return alone, or it is shown
without one of the other terminators, and then it is plain. -/
theorem stripTerminator_cases (h : (lines text)[i]? = some chars) :
    (stripTerminator chars = chars ∧ '\n' ∉ chars) ∨
      (i + 1 < (lines text).length ∧ IsPlain (stripTerminator chars) ∧
        ∃ ending, chars = stripTerminator chars ++ ending ∧
          (ending = ['\r', '\n'] ∨ ending = ['\n'] ∨ ending = ['\x0c'])) := by
  rcases body_of_getElem?_lines h with ⟨-, plain⟩ | ⟨more, body, ending, rfl, plain, ends⟩
  · exact .inl ⟨stripTerminator_eq_self plain.1 plain.2.1, plain.1⟩
  · rw [stripTerminator_append plain ends]
    rcases ends with rfl | rfl | rfl | ⟨rfl, -⟩
    · exact .inr ⟨more, plain, _, rfl, .inl rfl⟩
    · exact .inr ⟨more, plain, _, rfl, .inr (.inl rfl)⟩
    · exact .inr ⟨more, plain, _, rfl, .inr (.inr rfl)⟩
    · exact .inl ⟨if_pos rfl, by simp [plain.1]⟩

/-- What is shown of a line takes one line. -/
theorem newline_notMem_stripTerminator (h : (lines text)[i]? = some chars) :
    '\n' ∉ stripTerminator chars := by
  rcases stripTerminator_cases h with ⟨whole, feed⟩ | ⟨-, plain, -⟩
  · rw [whole]
    exact feed
  · exact plain.1

/-! ## Two halves of a text -/

/-- What stands behind a text changes none of its line ends, save that a line feed makes one
terminator with a carriage return in front of it. -/
theorem endsLine_append {c : Char} {first second : List Char}
    (seam : (c :: first).getLast? = some '\r' → second.head? ≠ some '\n') :
    endsLine c (first ++ second) = endsLine c first := by
  cases first with
  | cons d first => rfl
  | nil =>
      rw [List.nil_append, Bool.eq_iff_iff, endsLine_iff, endsLine_iff]
      have free : c = '\r' → second.head? ≠ some '\n' := fun cr => seam (cr ▸ rfl)
      simp only [IsTerminator, List.cons.injEq, and_true]
      simp [and_iff_left_of_imp free]

/-- The lines of two texts that stand one behind the other, unless the cut between them goes through
a terminator: the last line of the first text goes on in the first line of the second one. -/
theorem exists_lines_append {first second : List Char}
    (seam : first.getLast? = some '\r' → second.head? ≠ some '\n') :
    ∃ init last, lines first = init ++ [last] ∧
      lines (first ++ second) = init ++ (lines second).modifyHead (last ++ ·) := by
  induction first with
  | nil => exact ⟨[], [], rfl, (congrFun List.modifyHead_id (lines second)).symm⟩
  | cons c first ih =>
      have ends := endsLine_append seam
      have seam_rest : first.getLast? = some '\r' → second.head? ≠ some '\n' := by
        intro cr
        apply seam
        rw [List.getLast?_cons_of_ne_nil (by rintro rfl; simp at cr), cr]
      obtain ⟨init, last, alone, both⟩ := ih seam_rest
      rw [List.cons_append, lines, lines, ends, alone, both]
      split
      · exact ⟨[c] :: init, last, rfl, rfl⟩
      · -- The character goes in front of the first line, which may be the last one as well.
        cases init with
        | nil => exact ⟨[], c :: last, rfl, by cases lines second <;> simp⟩
        | cons line init => exact ⟨(c :: line) :: init, last, rfl, rfl⟩

/-- A carriage return and the line feed behind it end one line. -/
theorem exists_lines_pair (before after : List Char) :
    ∃ init last, before = init.flatten ++ last ∧
      lines (before ++ '\r' :: '\n' :: after) = init ++ (last ++ ['\r', '\n']) :: lines after := by
  have seam : before.getLast? = some '\r' → ('\r' :: '\n' :: after).head? ≠ some '\n' := by simp
  obtain ⟨init, last, alone, both⟩ := exists_lines_append seam
  have pair : lines ('\r' :: '\n' :: after) = ['\r', '\n'] :: lines after :=
    lines_terminator_append (.inl rfl)
  refine ⟨init, last, ?_, ?_⟩
  · rw [← flatten_lines before, alone]
    simp
  · rw [both, pair, List.modifyHead_cons]

end DiagnosticRelay.Text
