import DiagnosticRelay.Proofs.Source.Line
import DiagnosticRelay.Proofs.Text.Ending

/-!
# What is shown of a line

Lines are cut at every terminator, but a carriage return that stands alone is not taken off its
line. `IsShown` says what is left of a line then: the two notions differ in this one character at
the end of a line and nowhere else. Text that is no line may hold several terminators and give up
one of them each time; what is shown of a line has none to give up.
-/

namespace DiagnosticRelay

namespace Text

variable {body ending rest : List Char}

/-- A terminator that ends in a carriage return is a carriage return alone. -/
theorem IsTerminator.eq_return (ends : IsTerminator ending rest) {front : List Char}
    (last : body ++ ending = front ++ ['\r']) : ending = ['\r'] := by
  have same := congrArg List.getLast? last
  rw [List.getLast?_append, List.getLast?_concat] at same
  obtain rfl | rfl | rfl | ⟨rfl, -⟩ := ends
  · simp at same
  · simp at same
  · simp at same
  · rfl

/-- Behind a body, a carriage return is the last character or there is none. -/
theorem IsPlain.eq_length (plain : IsPlain body) {i : Nat}
    (found : (body ++ ['\r'])[i]? = some '\r') : i = body.length := by
  by_cases inside : i < body.length
  · rw [List.getElem?_append_left inside] at found
    exact absurd (List.mem_of_getElem? found) plain.2.2
  · have bound := (List.getElem?_eq_some_iff.mp found).1
    rw [List.length_append, List.length_singleton] at bound
    omega

end Text

namespace SourceText

variable {text : SourceText} {offset line distance : Nat} {chars : List Char}

/-- The line ends in a carriage return, and no line feed stands behind it. -/
def EndsInReturn (text : SourceText) (line : Nat) : Prop :=
  ∃ body, text.lines[line]? = some (body ++ ['\r']) ∧
    Text.IsTerminator ['\r'] (text.lines.drop (line + 1)).flatten

/-- What is shown of a line, with its terminator taken off. -/
structure IsShown (text : SourceText) (line : Nat) (raw shown : List Char) : Prop where
  /-- One terminator is taken off, or nothing if the line has none that is. -/
  taken : ∃ ending ∈ [[], ['\n'], ['\x0c'], ['\r', '\n']], raw = shown ++ ending ∧
    (ending = [] ↔ line + 1 = text.index.lineCount ∨ text.EndsInReturn line)
  line_feed : '\n' ∉ shown
  form_feed : '\x0c' ∉ shown
  carriage_return : ∀ i, shown[i]? = some '\r' → i + 1 = shown.length ∧ text.EndsInReturn line
  /-- There is nothing left to take off. -/
  again : Text.stripTerminator shown = shown

theorem length_lines (text : SourceText) : text.lines.length = text.index.lineCount := by
  rw [← text.cutAt_starts, Text.length_cutAt]
  rfl

theorem isShown_of_last (last : line + 1 = text.lines.length) (plain : Text.IsPlain chars) :
    text.IsShown line chars chars where
  taken := by
    refine ⟨[], by simp, (List.append_nil chars).symm, ?_⟩
    rw [← length_lines]
    exact ⟨fun _ => .inl last, fun _ => rfl⟩
  line_feed := plain.1
  form_feed := plain.2.1
  carriage_return i found := absurd (List.mem_of_getElem? found) plain.2.2
  again := Text.stripTerminator_eq_self plain.1 plain.2.1

namespace OnLine

/-- A line that ends in a carriage return ends in it alone: otherwise the line feed would be part
of the line. -/
theorem endsInReturn_iff (h : text.OnLine offset line distance chars) :
    text.EndsInReturn line ↔ ∃ body, chars = body ++ ['\r'] := by
  constructor
  · rintro ⟨body, found, -⟩
    exact ⟨body, Option.some.inj (h.getElem?_lines.symm.trans found)⟩
  · rintro ⟨body, rfl⟩
    refine ⟨body, h.getElem?_lines, ?_⟩
    rw [lines]
    obtain ⟨-, plain⟩ | ⟨-, _, ending, last, -, ends⟩ :=
      Text.body_of_getElem?_lines h.of_content.1
    · exact absurd (by simp) plain.2.2
    · rw [← ends.eq_return last.symm]
      exact ends

theorem isShown_of_return {body : List Char} (h : text.OnLine offset line distance (body ++ ['\r']))
    (plain : Text.IsPlain body) : text.IsShown line (body ++ ['\r']) (body ++ ['\r']) := by
  have line_feed : '\n' ∉ body ++ ['\r'] := by simp [plain.1]
  have form_feed : '\x0c' ∉ body ++ ['\r'] := by simp [plain.2.1]
  have alone : text.EndsInReturn line := h.endsInReturn_iff.mpr ⟨body, rfl⟩
  refine
    { taken := ⟨[], by simp, (List.append_nil _).symm, fun _ => .inr alone, fun _ => rfl⟩
      line_feed := line_feed
      form_feed := form_feed
      carriage_return := ?_
      again := Text.stripTerminator_eq_self line_feed form_feed }
  intro i found
  rw [plain.eq_length found, List.length_append, List.length_singleton]
  exact ⟨rfl, alone⟩

theorem isShown_of_terminator {body ending rest : List Char}
    (h : text.OnLine offset line distance (body ++ ending)) (more : line + 1 < text.lines.length)
    (plain : Text.IsPlain body) (ends : Text.IsTerminator ending rest) (pair : ending ≠ ['\r']) :
    text.IsShown line (body ++ ending) body where
  taken := by
    refine ⟨ending, ?_, rfl, ?_, ?_⟩
    · obtain rfl | rfl | rfl | ⟨rfl, -⟩ := ends
      · simp
      · simp
      · simp
      · exact absurd rfl pair
    · rintro rfl
      simp [Text.IsTerminator] at ends
    · rintro (last | alone)
      · rw [length_lines] at more
        exact absurd last (Nat.ne_of_lt more)
      · obtain ⟨front, last⟩ := h.endsInReturn_iff.mp alone
        exact absurd (ends.eq_return last) pair
  line_feed := plain.1
  form_feed := plain.2.1
  carriage_return i found := absurd (List.mem_of_getElem? found) plain.2.2
  again := Text.stripTerminator_eq_self plain.1 plain.2.1

end OnLine

/-- At every offset of a text, the line without its terminator is what is shown of the line. This
holds for lines: a text that is none may change each time a terminator is taken off. -/
theorem isShown_lineText (text : SourceText) :
    (∀ offset ≤ text.content.utf8ByteSize, ∃ line, text.source.lineAt? offset = some line ∧
      text.IsShown line (text.source.lineText offset).toList
        (Text.stripTerminator (text.source.lineText offset).toList)) ∧
    ∃ other, Text.stripTerminator (Text.stripTerminator other) ≠ Text.stripTerminator other := by
  refine ⟨?_, ['\n', '\n'], by decide⟩
  intro offset inside
  obtain ⟨line, distance, chars, h⟩ := exists_onLine inside
  refine ⟨line, h.lineAt?_eq, ?_⟩
  rw [h.lineText_eq, String.toList_ofList]
  obtain ⟨last, plain⟩ | ⟨more, body, ending, rfl, plain, ends⟩ :=
    Text.body_of_getElem?_lines h.of_content.1
  · rw [Text.stripTerminator_eq_self plain.1 plain.2.1]
    exact isShown_of_last (by rw [lines, last]) plain
  · rw [Text.stripTerminator_append plain ends]
    split
    · rename_i single
      subst single
      exact h.isShown_of_return plain
    · rename_i pair
      exact h.isShown_of_terminator (by rw [lines]; exact more) plain ends pair

/-- The first line ends in a carriage return alone, which stays. -/
theorem isShown_lineText_return :
    let text : SourceText := ⟨"Sum.scala", .memory, "é\r\r\nb"⟩
    text.EndsInReturn 0 ∧ Text.stripTerminator (text.source.lineText 1).toList = ['é', '\r'] := by
  intro text
  obtain ⟨line, found, shown⟩ := (isShown_lineText text).1 1 (by decide)
  have first : text.source.lineAt? 1 = some 0 := by decide +kernel
  have raw : (text.source.lineText 1).toList = ['é', '\r'] := by decide +kernel
  obtain rfl : line = 0 := Option.some.inj (found.symm.trans first)
  rw [raw] at shown ⊢
  exact ⟨(shown.carriage_return 1 (by decide)).2, shown.again.symm.trans (by decide)⟩

end SourceText

end DiagnosticRelay
