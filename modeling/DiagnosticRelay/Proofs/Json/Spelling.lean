import DiagnosticRelay.Json.Token
import Mathlib.Tactic.IntervalCases

/-!
# Spellings of strings

JSON leaves a choice of how to write a character of a string: as it stands, by an escape of one
letter, by its code in hexadecimal digits of either case, or by two such codes if one does not hold
it. `StringPiece.WrittenAs` and `StringPiece.Spells` say what may be written, without mention of how
it is read. The main statements are that `Token.scanString` reads back the pieces that were written,
and that `StringPiece.join` gives the characters that the pieces spell and refuses all else.
-/

namespace DiagnosticRelay

namespace Text

/-- A hexadecimal digit of a value, of either case. -/
def IsHexDigit (value : Nat) (c : Char) : Prop :=
  value < 16 ∧ (c = value.digitChar ∨ c = value.digitChar.toUpper)

instance (value : Nat) (c : Char) : Decidable (IsHexDigit value c) :=
  inferInstanceAs (Decidable (_ ∧ _))

theorem IsHexDigit.hexDigit? {value : Nat} {c : Char} (h : IsHexDigit value c) :
    hexDigit? c = some value := by
  obtain ⟨small, rfl | rfl⟩ := h <;> interval_cases value <;> rfl

theorem IsHexDigit.digit? {value : Nat} {c : Char} (h : IsHexDigit value c) :
    digit? 16 c = some value := by
  simp [Text.digit?, h.hexDigit?, h.1]

theorem isHexDigit_digitChar {value : Nat} (h : value < 16) : IsHexDigit value value.digitChar :=
  ⟨h, .inl rfl⟩

theorem toNat_lt (c : Char) : c.toNat < 0x110000 := by
  have valid : c.toNat.isValidChar := c.valid
  simp only [Nat.isValidChar] at valid
  omega

theorem scalar?_toNat (c : Char) : scalar? c.toNat = some c := by
  have valid : c.toNat.isValidChar := c.valid
  rw [scalar?, dif_pos valid]
  rfl

theorem toNat_of_scalar? {code : Nat} {c : Char} (h : scalar? code = some c) : c.toNat = code := by
  by_cases valid : code.isValidChar
  · rw [scalar?, dif_pos valid] at h
    cases h
    rfl
  · rw [scalar?, dif_neg valid] at h
    cases h

end Text

namespace Json

/-- The letters of the short escapes, each with the character it stands for. -/
def shortEscapes : List (Char × Char) :=
  [('"', '"'), ('\\', '\\'), ('/', '/'), ('b', '\x08'), ('f', '\x0c'), ('n', '\n'), ('r', '\r'),
    ('t', '\t')]

namespace StringPiece

/-- The ways to write a piece of a string. -/
inductive WrittenAs : StringPiece → List Char → Prop where
  /-- A character as it stands. Control characters, the quote and the backslash may not. -/
  | raw {c : Char} (control : 0x20 ≤ c.toNat) (quote : c ≠ '"') (backslash : c ≠ '\\') :
      WrittenAs (.char c) [c]
  /-- An escape of one letter. -/
  | short {letter c : Char} (escape : (letter, c) ∈ shortEscapes) :
      WrittenAs (.char c) ['\\', letter]
  /-- Four hexadecimal digits, each of either case. -/
  | unit {code : Nat} {a b c d : Char} (first : Text.IsHexDigit (code / 0x1000) a)
      (second : Text.IsHexDigit (code / 0x100 % 0x10) b)
      (third : Text.IsHexDigit (code / 0x10 % 0x10) c) (fourth : Text.IsHexDigit (code % 0x10) d) :
      WrittenAs (.unit code) ['\\', 'u', a, b, c, d]

/-- Pieces written one after another. -/
inductive AllWrittenAs : List StringPiece → List Char → Prop where
  | nil : AllWrittenAs [] []
  | cons {piece : StringPiece} {pieces : List StringPiece} {text texts : List Char}
      (head : piece.WrittenAs text) (tail : AllWrittenAs pieces texts) :
      AllWrittenAs (piece :: pieces) (text ++ texts)

/-- The characters that pieces spell. A character beyond the range of one unit takes a surrogate
pair, and no other use of surrogates spells anything. -/
inductive Spells : List StringPiece → List Char → Prop where
  | nil : Spells [] []
  | char {c : Char} {pieces : List StringPiece} {cs : List Char} (tail : Spells pieces cs) :
      Spells (.char c :: pieces) (c :: cs)
  | unit {c : Char} {pieces : List StringPiece} {cs : List Char} (tail : Spells pieces cs) :
      Spells (.unit c.toNat :: pieces) (c :: cs)
  | pair {c : Char} {pieces : List StringPiece} {cs : List Char} (wide : 0x10000 ≤ c.toNat)
      (tail : Spells pieces cs) :
      Spells (.unit (0xD800 + (c.toNat - 0x10000) / 0x400) ::
        .unit (0xDC00 + (c.toNat - 0x10000) % 0x400) :: pieces) (c :: cs)

/-- All characters may stand in a string as they are. -/
def IsPlain (cs : List Char) : Prop :=
  ∀ c ∈ cs, 0x20 ≤ c.toNat ∧ c ≠ '"' ∧ c ≠ '\\'

instance (cs : List Char) : Decidable (IsPlain cs) :=
  List.decidableBAll _ cs

variable {pieces : List StringPiece} {cs : List Char}

/-- A character is no half of a surrogate pair. -/
theorem isHighSurrogate_toNat (c : Char) : isHighSurrogate c.toNat = false := by
  have valid : c.toNat.isValidChar := c.valid
  simp only [Nat.isValidChar] at valid
  simp only [isHighSurrogate, Bool.and_eq_false_iff, decide_eq_false_iff_not]
  omega

theorem join_pair {high low : Nat} {c : Char} (first : isHighSurrogate high = true)
    (second : isLowSurrogate low = true) (scalar : Text.scalar? (pairCode high low) = some c)
    (h : join pieces = some cs) : join (.unit high :: .unit low :: pieces) = some (c :: cs) := by
  simp [join, first, second, scalar, h]

theorem join_unit {code : Nat} {c : Char} (single : isHighSurrogate code = false)
    (scalar : Text.scalar? code = some c) (h : join pieces = some cs) :
    join (.unit code :: pieces) = some (c :: cs) := by
  cases pieces with
  | nil => simp_all [join]
  | cons piece pieces =>
    cases piece with
    | char d => simpa [join, scalar] using h
    | unit low => simp [join, scalar, single, h]

/-- The two units of a wide character are the halves of a pair, and the pair is the character. -/
theorem surrogates_of_wide {n : Nat} (wide : 0x10000 ≤ n) (bound : n < 0x110000) :
    isHighSurrogate (0xD800 + (n - 0x10000) / 0x400) = true ∧
      isLowSurrogate (0xDC00 + (n - 0x10000) % 0x400) = true ∧
      pairCode (0xD800 + (n - 0x10000) / 0x400) (0xDC00 + (n - 0x10000) % 0x400) = n := by
  simp only [isHighSurrogate, isLowSurrogate, pairCode, Bool.and_eq_true, decide_eq_true_eq]
  omega

theorem join_eq_some_of_spells (h : Spells pieces cs) : join pieces = some cs := by
  induction h with
  | nil => rfl
  | char tail ih => rw [join, ih, Option.map_some]
  | @unit c pieces cs tail ih =>
    exact join_unit (isHighSurrogate_toNat c) (Text.scalar?_toNat c) ih
  | @pair c pieces cs wide tail ih =>
    obtain ⟨isHigh, isLow, code⟩ := surrogates_of_wide wide (Text.toNat_lt c)
    have scalar := Text.scalar?_toNat c
    rw [← code] at scalar
    exact join_pair isHigh isLow scalar ih

/-- The halves of a surrogate pair are the two units of the character of the pair. -/
theorem wide_of_surrogates {high low : Nat} (first : isHighSurrogate high = true)
    (second : isLowSurrogate low = true) :
    0x10000 ≤ pairCode high low ∧ high = 0xD800 + (pairCode high low - 0x10000) / 0x400 ∧
      low = 0xDC00 + (pairCode high low - 0x10000) % 0x400 := by
  simp only [isHighSurrogate, isLowSurrogate, Bool.and_eq_true, decide_eq_true_eq] at first second
  simp only [pairCode]
  omega

theorem spells_of_join (h : join pieces = some cs) : Spells pieces cs := by
  fun_induction join pieces generalizing cs with
  | case1 =>
    cases h
    exact .nil
  | case2 c rest ih =>
    obtain ⟨tail, joined, rfl⟩ := Option.map_eq_some_iff.1 h
    exact .char (ih joined)
  | case3 high low rest surrogates c scalar ih =>
    obtain ⟨tail, joined, rfl⟩ := Option.map_eq_some_iff.1 h
    obtain ⟨first, second⟩ := Bool.and_eq_true_iff.1 surrogates
    obtain ⟨wide, isFirst, isSecond⟩ := wide_of_surrogates first second
    rw [← Text.toNat_of_scalar? scalar] at wide isFirst isSecond
    rw [isFirst, isSecond]
    exact .pair wide (ih joined)
  | case5 high low rest _ c scalar ih =>
    obtain ⟨tail, joined, rfl⟩ := Option.map_eq_some_iff.1 h
    exact Text.toNat_of_scalar? scalar ▸ .unit (ih joined)
  | case7 code rest _ c scalar ih =>
    obtain ⟨tail, joined, rfl⟩ := Option.map_eq_some_iff.1 h
    exact Text.toNat_of_scalar? scalar ▸ .unit (ih joined)
  | case4 => cases h
  | case6 => cases h
  | case8 => cases h

theorem join_eq_some_iff : join pieces = some cs ↔ Spells pieces cs :=
  ⟨spells_of_join, join_eq_some_of_spells⟩

theorem allWrittenAs_plain (plain : IsPlain cs) :
    AllWrittenAs (cs.map .char) cs ∧ Spells (cs.map .char) cs := by
  induction cs with
  | nil => exact ⟨.nil, .nil⟩
  | cons c cs ih =>
    obtain ⟨⟨control, quote, backslash⟩, others⟩ := List.forall_mem_cons.1 plain
    obtain ⟨written, spelled⟩ := ih others
    exact ⟨.cons (.raw control quote backslash) written, .char spelled⟩

theorem exists_writtenAs_unit {code : Nat} (h : code < 0x10000) :
    ∃ text, WrittenAs (.unit code) text :=
  ⟨_, .unit (Text.isHexDigit_digitChar (by omega)) (Text.isHexDigit_digitChar (by omega))
    (Text.isHexDigit_digitChar (by omega)) (Text.isHexDigit_digitChar (by omega))⟩

/-- Every text can be spelled: what may not stand as it is has an escape. -/
theorem exists_spelling (cs : List Char) :
    ∃ pieces text, AllWrittenAs pieces text ∧ Spells pieces cs := by
  induction cs with
  | nil => exact ⟨[], [], .nil, .nil⟩
  | cons c cs ih =>
    obtain ⟨pieces, text, written, spelled⟩ := ih
    by_cases plain : 0x20 ≤ c.toNat ∧ c ≠ '"' ∧ c ≠ '\\'
    · exact ⟨_, _, .cons (.raw plain.1 plain.2.1 plain.2.2) written, .char spelled⟩
    · have small : c.toNat < 0x10000 := by
        by_contra wide
        refine plain ⟨by omega, ?_, ?_⟩ <;> rintro rfl <;> exact wide (by decide)
      obtain ⟨unitText, unitWritten⟩ := exists_writtenAs_unit small
      exact ⟨_, _, .cons unitWritten written, .unit spelled⟩

end StringPiece

namespace Token

open StringPiece

theorem shortEscape?_of_mem {letter c : Char} (escape : (letter, c) ∈ shortEscapes) :
    letter ≠ 'u' ∧ shortEscape? letter = some c := by
  simp only [shortEscapes, List.mem_cons, Prod.mk.injEq, List.not_mem_nil, or_false] at escape
  rcases escape with h | h | h | h | h | h | h | h <;> obtain ⟨rfl, rfl⟩ := h <;> decide

theorem unit?_eq_some {code : Nat} {a b c d : Char} (first : Text.IsHexDigit (code / 0x1000) a)
    (second : Text.IsHexDigit (code / 0x100 % 0x10) b)
    (third : Text.IsHexDigit (code / 0x10 % 0x10) c) (fourth : Text.IsHexDigit (code % 0x10) d) :
    unit? a b c d = some code := by
  simp only [unit?, Text.isDigit, Text.digitsValue, first.digit?, second.digit?, third.digit?,
    fourth.digit?, List.all_cons, List.all_nil, List.foldl_cons, List.foldl_nil,
    Option.isSome_some, Option.getD_some, Bool.and_self, if_true, Option.some_inj]
  omega

/-- One written piece is read as that piece. -/
theorem scanString_append {piece : StringPiece} {text rest : List Char}
    (written : piece.WrittenAs text) :
    scanString (text ++ rest) =
      (scanString rest).map fun (pieces, after) => (piece :: pieces, after) := by
  cases written with
  | @raw c control quote backslash =>
    rw [List.singleton_append, scanString, if_neg]
    · cases scanString rest <;> rfl
    · simpa [backslash] using control
    · exact quote
    · exact fun _ _ _ _ _ h _ => backslash h
    · exact fun _ _ h _ => backslash h
  | @short letter c escape =>
    obtain ⟨other, letterOf⟩ := shortEscape?_of_mem escape
    show scanString ('\\' :: letter :: rest) = _
    rw [scanString, letterOf]
    · cases scanString rest <;> rfl
    · exact fun _ _ _ _ _ h _ => other h
  | @unit code a b c d first second third fourth =>
    show scanString ('\\' :: 'u' :: a :: b :: c :: d :: rest) = _
    rw [scanString, unit?_eq_some first second third fourth]
    cases scanString rest <;> rfl

/-- Pieces are read up to the closing quote. -/
theorem scanString_written {pieces : List StringPiece} {text rest : List Char}
    (written : AllWrittenAs pieces text) :
    scanString (text ++ '"' :: rest) = some (pieces, rest) := by
  induction written with
  | nil => rfl
  | cons head tail ih => rw [List.append_assoc, scanString_append head, ih, Option.map_some]

end Token

end Json

end DiagnosticRelay
