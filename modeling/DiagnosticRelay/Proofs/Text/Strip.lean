import DiagnosticRelay.Text.Lines
import Mathlib.Data.List.Basic

/-!
# Text without its terminator

`IsStripped` says what is left of a text when one terminator is taken off its end, by looking at
the end only. The main statement is that `stripTerminator`, which reads the text from its beginning,
leaves this and nothing else, whatever the text is: nothing here supposes that it is a line.
-/

namespace DiagnosticRelay.Text

/-- What is left of a text without one terminator. A carriage return goes only together with the
line feed after it, so a text that ends in neither a line feed nor a form feed is left as it is. -/
def IsStripped (text left : List Char) : Prop :=
  text = left ++ ['\r', '\n'] ∨
    (text = left ++ ['\n'] ∧ left.getLast? ≠ some '\r') ∨
    text = left ++ ['\x0c'] ∨
    (text = left ∧ left.getLast? ≠ some '\n' ∧ left.getLast? ≠ some '\x0c')

variable {text left : List Char} {c last : Char}

theorem getLast?_cons_ne (h : text.getLast? ≠ some last) (single : text = [] → c ≠ last) :
    (c :: text).getLast? ≠ some last := by
  cases text with
  | nil => simpa using single rfl
  | cons d rest => simpa using h

theorem getLast?_ne_of_cons (h : (c :: text).getLast? ≠ some last) : text.getLast? ≠ some last := by
  cases text with
  | nil => simp
  | cons d rest => simpa using h

theorem isStripped_stripTerminator (text : List Char) : IsStripped text (stripTerminator text) := by
  fun_induction stripTerminator text with
  | case1 => exact .inr (.inr (.inr ⟨rfl, by simp, by simp⟩))
  | case2 => exact .inr (.inl ⟨rfl, by simp⟩)
  | case3 => exact .inr (.inr (.inl rfl))
  | case4 => exact .inl rfl
  | case5 c rest line_feed form_feed both ih =>
      -- One more character in front keeps the ending, unless it makes a terminator with it.
      rcases ih with ending | ⟨ending, kept⟩ | ending | ⟨whole, kept, kept'⟩
      · exact .inl (congrArg (c :: ·) ending)
      · refine .inr (.inl ⟨congrArg (c :: ·) ending, getLast?_cons_ne kept ?_⟩)
        rintro empty rfl
        rw [empty] at ending
        exact both rfl ending
      · exact .inr (.inr (.inl (congrArg (c :: ·) ending)))
      · refine .inr (.inr (.inr ⟨congrArg (c :: ·) whole, getLast?_cons_ne kept ?_,
          getLast?_cons_ne kept' ?_⟩))
        · rintro empty rfl
          exact line_feed rfl (whole.trans empty)
        · rintro empty rfl
          exact form_feed rfl (whole.trans empty)

namespace IsStripped

/-- The first character of what is left is the first one of the text, and the rest is left of the
rest. -/
theorem of_cons (h : IsStripped text (c :: left)) :
    ∃ rest, text = c :: rest ∧ stripTerminator text = c :: stripTerminator rest ∧
      IsStripped rest left := by
  rcases h with rfl | ⟨rfl, kept⟩ | rfl | ⟨rfl, kept, kept'⟩
  · refine ⟨left ++ ['\r', '\n'], rfl, ?_, .inl rfl⟩
    apply stripTerminator.eq_5
    · simp
    · simp
    · intro _ single
      simpa using congrArg List.length single
  · refine ⟨left ++ ['\n'], rfl, ?_, .inr (.inl ⟨rfl, getLast?_ne_of_cons kept⟩)⟩
    apply stripTerminator.eq_5
    · simp
    · simp
    · rintro rfl single
      simp_all
  · refine ⟨left ++ ['\x0c'], rfl, ?_, .inr (.inr (.inl rfl))⟩
    apply stripTerminator.eq_5
    · simp
    · simp
    · intro _ single
      simpa using congrArg List.getLast? single
  · refine ⟨left, rfl, ?_,
      .inr (.inr (.inr ⟨rfl, getLast?_ne_of_cons kept, getLast?_ne_of_cons kept'⟩))⟩
    apply stripTerminator.eq_5
    · rintro rfl rfl
      simp at kept
    · rintro rfl rfl
      simp at kept'
    · rintro rfl rfl
      simp at kept

theorem eq_stripTerminator (h : IsStripped text left) : left = stripTerminator text := by
  induction left generalizing text with
  | nil => rcases h with rfl | ⟨rfl, -⟩ | rfl | ⟨rfl, -⟩ <;> rfl
  | cons c left ih =>
      obtain ⟨rest, rfl, first, stripped⟩ := h.of_cons
      rw [first, ← ih stripped]

end IsStripped

/-- Nothing but the text without its terminator is left. -/
theorem isStripped_iff : IsStripped text left ↔ left = stripTerminator text := by
  constructor
  · exact IsStripped.eq_stripTerminator
  · rintro rfl
    exact isStripped_stripTerminator text

end DiagnosticRelay.Text
