import DiagnosticRelay.Proofs.Text.Cut
import DiagnosticRelay.Text.Lines

/-!
# The lines of a text

`AreLines` says what the lines of a text are without saying how to find them: every line but the
last is a body and one terminator, the last is a body alone, and no body holds any of the three
characters that can end a line. The main result is that each text has exactly one such
decomposition, which is `lines`. The case with an argument in it is a carriage return: whether it
ends a line depends on the character after it, which may belong to the next line.
-/

namespace DiagnosticRelay.Text

/-- Text without the characters that can end a line. -/
def IsPlain (body : List Char) : Prop :=
  '\n' ∉ body ∧ '\x0c' ∉ body ∧ '\r' ∉ body

/-- What ends a line when `rest` follows. A carriage return that a line feed follows is only the
first half of a terminator. -/
def IsTerminator (ending rest : List Char) : Prop :=
  ending = ['\r', '\n'] ∨ ending = ['\n'] ∨ ending = ['\x0c'] ∨
    (ending = ['\r'] ∧ rest.head? ≠ some '\n')

/-- Pieces that are the lines of the text that they make up. -/
inductive AreLines : List (List Char) → Prop where
  | last {body : List Char} : IsPlain body → AreLines [body]
  | cons {body ending : List Char} {rest : List (List Char)} : IsPlain body →
      IsTerminator ending rest.flatten → AreLines rest → AreLines ((body ++ ending) :: rest)

/-- The number of terminators of a text, a carriage return and a line feed together being one. -/
def terminatorCount : List Char → Nat
  | [] => 0
  | '\r' :: '\n' :: rest => terminatorCount rest + 1
  | c :: rest =>
    if c = '\n' ∨ c = '\x0c' ∨ c = '\r' then terminatorCount rest + 1 else terminatorCount rest

theorem isPlain_nil : IsPlain [] := by simp [IsPlain]

theorem isPlain_cons_iff {c : Char} {body : List Char} :
    IsPlain (c :: body) ↔ (c ≠ '\n' ∧ c ≠ '\x0c' ∧ c ≠ '\r') ∧ IsPlain body := by
  simp only [IsPlain, List.mem_cons, not_or, ne_comm (a := c)]
  tauto

theorem endsLine_iff {c : Char} {rest : List Char} :
    endsLine c rest = true ↔ IsTerminator [c] rest := by
  simp [endsLine, IsTerminator, or_assoc]

/-- One character ends a line, unless it is the first half of a terminator. -/
theorem isTerminator_singleton {c : Char} {rest : List Char}
    (pair : ∀ tail, c = '\r' → rest = '\n' :: tail → False)
    (ends : c = '\n' ∨ c = '\x0c' ∨ c = '\r') : IsTerminator [c] rest := by
  rcases ends with rfl | rfl | rfl
  · exact Or.inr (Or.inl rfl)
  · exact Or.inr (Or.inr (Or.inl rfl))
  · refine Or.inr (Or.inr (Or.inr ⟨rfl, ?_⟩))
    intro feed
    obtain ⟨tail, rfl⟩ := List.head?_eq_some_iff.mp feed
    exact pair tail rfl rfl

/-- A character inside a body ends no line, whatever follows. -/
theorem endsLine_eq_false {c : Char} (hc : c ≠ '\n' ∧ c ≠ '\x0c' ∧ c ≠ '\r') (rest : List Char) :
    endsLine c rest = false := by
  simp [endsLine, hc]

/-! ## The decomposition exists -/

/-- A carriage return that ends no line opens the terminator of a line with an empty body. -/
theorem AreLines.modifyHead_cons {c : Char} {pieces : List (List Char)} (h : AreLines pieces)
    (hc : endsLine c pieces.flatten = false) : AreLines (pieces.modifyHead (c :: ·)) := by
  by_cases cr : c = '\r'
  · subst cr
    have feed : pieces.flatten.head? = some '\n' := by simpa [endsLine] using hc
    cases h with
    | last plain =>
        rename_i body
        exact absurd (List.mem_of_head? (by simpa using feed)) plain.1
    | cons plain ends lines =>
        rename_i body ending rest
        cases body with
        | cons d body =>
            obtain rfl : d = '\n' := by simpa using feed
            exact absurd (List.mem_cons_self ..) plain.1
        | nil =>
            obtain rfl : ending = ['\n'] := by
              rcases ends with rfl | rfl | rfl | ⟨rfl, _⟩ <;> simp_all
            exact @AreLines.cons [] ['\r', '\n'] rest isPlain_nil (Or.inl rfl) lines
  · have plain_c : c ≠ '\n' ∧ c ≠ '\x0c' ∧ c ≠ '\r' := by
      simp only [endsLine, Bool.or_eq_false_iff, beq_eq_false_iff_ne] at hc
      exact ⟨hc.1.1, hc.1.2, cr⟩
    cases h with
    | last plain => exact .last (isPlain_cons_iff.mpr ⟨plain_c, plain⟩)
    | cons plain ends lines =>
        exact .cons (isPlain_cons_iff.mpr ⟨plain_c, plain⟩) ends lines

theorem areLines_lines (text : List Char) : AreLines (lines text) := by
  induction text with
  | nil => exact .last isPlain_nil
  | cons c rest ih =>
      rw [lines]
      by_cases ends : endsLine c rest = true
      · rw [if_pos ends]
        refine @AreLines.cons [] [c] (lines rest) isPlain_nil ?_ ih
        rw [flatten_lines]
        exact endsLine_iff.mp ends
      · rw [if_neg ends]
        apply ih.modifyHead_cons
        rw [flatten_lines]
        exact Bool.eq_false_iff.mpr ends

/-! ## The decomposition is the only one -/

theorem lines_of_isPlain {body : List Char} (plain : IsPlain body) : lines body = [body] := by
  induction body with
  | nil => rfl
  | cons c body ih =>
      obtain ⟨hc, plain⟩ := isPlain_cons_iff.mp plain
      rw [lines, endsLine_eq_false hc, if_neg Bool.false_ne_true, ih plain, List.modifyHead_cons]

theorem lines_terminator_append {ending rest : List Char} (ends : IsTerminator ending rest) :
    lines (ending ++ rest) = ending :: lines rest := by
  rcases ends with rfl | rfl | rfl | ⟨rfl, single⟩
  · simp [lines, endsLine]
  · simp [lines, endsLine]
  · simp [lines, endsLine]
  · simp [lines, endsLine, single]

/-- The first line of a text that begins with a body and a terminator. -/
theorem lines_body_append {body ending rest : List Char} (plain : IsPlain body)
    (ends : IsTerminator ending rest) :
    lines (body ++ ending ++ rest) = (body ++ ending) :: lines rest := by
  induction body with
  | nil => exact lines_terminator_append ends
  | cons c body ih =>
      obtain ⟨hc, plain⟩ := isPlain_cons_iff.mp plain
      rw [List.cons_append, List.cons_append, lines, endsLine_eq_false hc,
        if_neg Bool.false_ne_true, ih plain, List.modifyHead_cons]

/-- Whatever are the lines of a text are the lines found by `lines`. -/
theorem AreLines.eq_lines {pieces : List (List Char)} (h : AreLines pieces) :
    pieces = lines pieces.flatten := by
  induction h with
  | last plain => rw [List.flatten_singleton, lines_of_isPlain plain]
  | cons plain ends _ ih => rw [List.flatten_cons, lines_body_append plain ends, ← ih]

/-! ## The lines one by one -/

/-- Each line but the last has a terminator for what follows it, and the last has none. -/
theorem areLines_iff {pieces : List (List Char)} :
    AreLines pieces ↔ pieces ≠ [] ∧
      (∀ i line, pieces[i]? = some line → i + 1 < pieces.length → ∃ body ending,
        line = body ++ ending ∧ IsPlain body ∧
          IsTerminator ending (pieces.drop (i + 1)).flatten) ∧
      ∀ line, pieces.getLast? = some line → IsPlain line := by
  constructor
  · intro h
    induction h with
    | last plain =>
        refine ⟨List.cons_ne_nil _ _, ?_, ?_⟩
        · intro i line _ hi
          exact absurd hi (by simp)
        · rintro line hline
          rw [List.getLast?_singleton, Option.some.injEq] at hline
          exact hline ▸ plain
    | cons plain ends lines ih =>
        rename_i body ending rest
        obtain ⟨nonempty, inner, final⟩ := ih
        refine ⟨List.cons_ne_nil _ _, ?_, ?_⟩
        · intro i line hline hi
          cases i with
          | zero =>
              rw [List.getElem?_cons_zero, Option.some.injEq] at hline
              exact ⟨body, ending, hline.symm, plain, ends⟩
          | succ i => exact inner i line hline (Nat.lt_of_succ_lt_succ hi)
        · intro line hline
          rw [List.getLast?_cons_of_ne_nil nonempty] at hline
          exact final line hline
  · rintro ⟨nonempty, inner, final⟩
    induction pieces with
    | nil => exact absurd rfl nonempty
    | cons first rest ih =>
        by_cases single : rest = []
        · subst single
          exact .last (final first rfl)
        · have hrest : 0 < rest.length := List.length_pos_iff.mpr single
          obtain ⟨body, ending, rfl, plain, ends⟩ := inner 0 first rfl (by simpa using hrest)
          refine .cons plain ends (ih single ?_ ?_)
          · intro i line hline hi
            exact inner (i + 1) line hline (Nat.succ_lt_succ hi)
          · intro line hline
            exact final line (by rw [List.getLast?_cons_of_ne_nil single]; exact hline)

/-- There is one more line than there are terminators. -/
theorem length_lines (text : List Char) : (lines text).length = terminatorCount text + 1 := by
  fun_induction terminatorCount text with
  | case1 => rfl
  | case2 rest ih =>
      rw [show '\r' :: '\n' :: rest = ['\r', '\n'] ++ rest from rfl,
        lines_terminator_append (Or.inl rfl), List.length_cons, ih]
  | case3 c rest pair ends ih =>
      rw [lines, if_pos (endsLine_iff.mpr (isTerminator_singleton pair ends)), List.length_cons,
        ih]
  | case4 c rest pair plain ih =>
      have hc : c ≠ '\n' ∧ c ≠ '\x0c' ∧ c ≠ '\r' := by simpa [not_or] using plain
      rw [lines, endsLine_eq_false hc, if_neg Bool.false_ne_true, List.length_modifyHead, ih]

/-! ## Where the lines begin -/

theorem offsetsFrom_lines (start : Nat) (text : List Char) :
    offsetsFrom start (lines text) = start :: breaksFrom start text := by
  induction text generalizing start with
  | nil => rfl
  | cons c rest ih =>
      have later := ih (start + c.utf8Size)
      rw [lines, breaksFrom]
      split
      · simpa [offsetsFrom] using later
      · cases found : lines rest with
        | nil => exact absurd found (lines_ne_nil rest)
        | cons line more =>
            rw [found, offsetsFrom, List.cons.injEq] at later
            rw [List.modifyHead_cons, offsetsFrom, byteLength_cons, ← Nat.add_assoc, later.2]

/-- The line starts are the offsets at which the lines begin. -/
theorem lineStarts_eq_offsetsFrom (text : List Char) :
    lineStarts text = offsetsFrom 0 (lines text) :=
  (offsetsFrom_lines 0 text).symm

@[simp] theorem length_lineStarts (text : List Char) :
    (lineStarts text).length = (lines text).length := by
  rw [lineStarts_eq_offsetsFrom, length_offsetsFrom]

@[simp] theorem cutAt_lineStarts (text : List Char) :
    cutAt text (lineStarts text) = lines text := by
  simpa [lineStarts_eq_offsetsFrom] using cutAt_offsetsFrom [] (lines text)

theorem lt_of_mem_breaksFrom {start offset : Nat} {text : List Char}
    (h : offset ∈ breaksFrom start text) : start < offset := by
  induction text generalizing start with
  | nil => exact absurd h List.not_mem_nil
  | cons c rest ih =>
      have hpos := c.utf8Size_pos
      rw [breaksFrom] at h
      split at h
      · rcases List.mem_cons.mp h with rfl | h
        · omega
        · exact Nat.lt_trans (by omega) (ih h)
      · exact Nat.lt_trans (by omega) (ih h)

theorem pairwise_breaksFrom (start : Nat) (text : List Char) :
    (breaksFrom start text).Pairwise (· < ·) := by
  induction text generalizing start with
  | nil => exact .nil
  | cons c rest ih =>
      rw [breaksFrom]
      split
      · exact .cons (fun _ => lt_of_mem_breaksFrom) (ih _)
      · exact ih _

theorem pairwise_lineStarts (text : List Char) : (lineStarts text).Pairwise (· < ·) :=
  .cons (fun _ => lt_of_mem_breaksFrom) (pairwise_breaksFrom 0 text)

/-- A line begins after all lines before it. -/
theorem getElem?_lineStarts {text : List Char} {i : Nat} (hi : i < (lines text).length) :
    (lineStarts text)[i]? = some (byteLength ((lines text).take i).flatten) := by
  rw [lineStarts_eq_offsetsFrom, getElem?_offsetsFrom 0 hi, Nat.zero_add]

theorem isBoundary_of_mem_lineStarts {text : List Char} {start : Nat}
    (h : start ∈ lineStarts text) : IsBoundary text start := by
  obtain ⟨i, hi, rfl⟩ := List.getElem_of_mem h
  have hlines : i < (lines text).length := by simpa using hi
  have value := getElem?_lineStarts hlines
  rw [List.getElem?_eq_getElem hi, Option.some.injEq] at value
  rw [value]
  simpa using isBoundary_flatten_take (lines text) i

end DiagnosticRelay.Text
