import DiagnosticRelay.Proofs.Json.Token
import Mathlib.Data.List.Induction
import Mathlib.Data.List.TakeWhile

/-!
# Scanned tokens

The converse of reading back what was written: whatever `Token.scan` accepts is written as
`Token.AllWrittenAs` says. Every scanner takes a written piece from the front of its text and leaves
the rest, so the statements have the form `cs = text ++ rest`. Together with `scan_written` they
leave no text out and let no other in.
-/

namespace DiagnosticRelay

namespace Text

theorem toNat_le_of_hexDigit? {value : Nat} {c : Char} (h : hexDigit? c = some value) :
    c.toNat ≤ 'f'.toNat := by
  unfold hexDigit? at h
  split at h
  · rename_i range
    exact Nat.le_trans (show c.toNat ≤ '9'.toNat from range.2) (by decide)
  · split at h
    · rename_i range
      exact range.2
    · split at h
      · rename_i range
        exact Nat.le_trans (show c.toNat ≤ 'F'.toNat from range.2) (by decide)
      · cases h

/-- Only hexadecimal digits have a value as such. -/
theorem isHexDigit_of_hexDigit? {value : Nat} {c : Char} (h : hexDigit? c = some value) :
    IsHexDigit value c := by
  have all : ∀ n ≤ 'f'.toNat, ∀ value ∈ hexDigit? (Char.ofNat n),
      IsHexDigit value (Char.ofNat n) := by
    decide
  have read := all c.toNat (toNat_le_of_hexDigit? h)
  rw [Char.ofNat_toNat] at read
  exact read value h

theorem isHexDigit_of_isDigit {c : Char} (h : isDigit 16 c = true) :
    IsHexDigit ((digit? 16 c).getD 0) c := by
  obtain ⟨value, read⟩ := Option.isSome_iff_exists.mp h
  rw [read, Option.getD_some]
  exact isHexDigit_of_hexDigit? (Option.filter_eq_some_iff.mp read).1

theorem digitsValue_concat (base : Nat) (digits : List Char) (c : Char) :
    digitsValue base (digits ++ [c]) =
      digitsValue base digits * base + (digit? base c).getD 0 := by
  simp [digitsValue]

/-- A decimal digit is the one of its value. -/
theorem digitChar_of_isDigit {c : Char} (h : c.isDigit = true) :
    ∃ value < 10, digit? 10 c = some value ∧ value.digitChar = c := by
  have ten := digit?_ten c
  rw [if_pos h] at ten
  obtain ⟨read, small⟩ := Option.filter_eq_some_iff.mp ten
  have capital : ∀ value < 10, value.digitChar.toUpper = value.digitChar := by decide
  refine ⟨_, of_decide_eq_true small, ten, ?_⟩
  rcases (isHexDigit_of_hexDigit? read).2 with same | same
  · exact same.symm
  · rw [capital _ (of_decide_eq_true small)] at same
    exact same.symm

/-- A number has one way to be written without a zero in front. -/
theorem toDigits_digitsValue {digits : List Char} (nonempty : digits ≠ [])
    (digitsOnly : ∀ c ∈ digits, c.isDigit = true) (lead : digits.head? ≠ some '0') :
    Nat.toDigits 10 (digitsValue 10 digits) = digits := by
  induction digits using List.reverseRecOn with
  | nil => exact absurd rfl nonempty
  | append_singleton front c ih =>
    obtain ⟨value, small, read, same⟩ := digitChar_of_isDigit (digitsOnly c (by simp))
    rw [digitsValue_concat, read, Option.getD_some]
    by_cases single : front = []
    · rw [single, digitsValue, List.foldl_nil, Nat.zero_mul, Nat.zero_add,
        Nat.toDigits_of_lt_base small, same, List.nil_append]
    · rw [List.head?_append_of_ne_nil _ single] at lead
      have written := ih single (fun d mem => digitsOnly d (List.mem_append_left _ mem)) lead
      -- Digits that do not begin with a zero do not amount to zero.
      have positive : 0 < digitsValue 10 front := by
        refine Nat.pos_of_ne_zero fun zero => lead ?_
        rw [← written, zero]
        rfl
      rw [Nat.mul_comm, ← Nat.toDigits_append_toDigits (by decide) positive small, written,
        Nat.toDigits_of_lt_base small, same]

end Text

namespace Json

namespace Token

open StringPiece

variable {cs rest digits : List Char}

/-! ## Numbers -/

theorem isDigits_of_scanDigits (h : scanDigits cs = some (digits, rest)) :
    cs = digits ++ rest ∧ IsDigits digits := by
  simp only [scanDigits] at h
  split at h
  · cases h
  · rename_i nonempty
    cases h
    refine ⟨List.takeWhile_append_dropWhile.symm, by simpa using nonempty, ?_⟩
    intro c mem
    rw [← Text.isDigit_ten]
    exact List.mem_takeWhile_imp mem

theorem toDigits_of_scanWhole (h : scanWhole cs = some (digits, rest)) :
    cs = Nat.toDigits 10 (Text.digitsValue 10 digits) ++ rest := by
  unfold scanWhole at h
  split at h
  · cases h
    rfl
  · rename_i other
    obtain ⟨rfl, nonempty, digitsOnly⟩ := isDigits_of_scanDigits h
    have lead : digits.head? ≠ some '0' := by
      intro zero
      obtain ⟨tail, rfl⟩ := List.head?_eq_some_iff.mp zero
      exact other (tail ++ rest) rfl
    rw [Text.toDigits_digitsValue nonempty digitsOnly lead]

theorem written_of_scanFraction {fraction : Bool} (h : scanFraction cs = some (fraction, rest)) :
    ∃ text, cs = text ++ rest ∧ FractionWrittenAs fraction text := by
  unfold scanFraction at h
  split at h
  · obtain ⟨⟨digits, after⟩, scanned, same⟩ := Option.map_eq_some_iff.mp h
    cases same
    obtain ⟨rfl, digitsOnly⟩ := isDigits_of_scanDigits scanned
    exact ⟨_, rfl, .present digitsOnly⟩
  · cases h
    exact ⟨[], rfl, .missing⟩

theorem written_of_scanExponent {exponent : Bool} (h : scanExponent cs = some (exponent, rest)) :
    ∃ text, cs = text ++ rest ∧ ExponentWrittenAs exponent text := by
  unfold scanExponent at h
  split at h
  · rename_i letter after
    split at h
    · rename_i isLetter
      have letter_mem : letter ∈ ['e', 'E'] := by simpa using isLetter
      obtain ⟨⟨digits, last⟩, scanned, same⟩ := Option.map_eq_some_iff.mp h
      cases same
      -- The sign that an exponent may begin with is not part of its digits.
      split at scanned
      · obtain ⟨rfl, digitsOnly⟩ := isDigits_of_scanDigits scanned
        exact ⟨letter :: (['+'] ++ digits), rfl, .present letter_mem (by simp) digitsOnly⟩
      · obtain ⟨rfl, digitsOnly⟩ := isDigits_of_scanDigits scanned
        exact ⟨letter :: (['-'] ++ digits), rfl, .present letter_mem (by simp) digitsOnly⟩
      · obtain ⟨rfl, digitsOnly⟩ := isDigits_of_scanDigits scanned
        exact ⟨letter :: ([] ++ digits), rfl, .present letter_mem (by simp) digitsOnly⟩
    · cases h
      exact ⟨[], rfl, .missing⟩
  · cases h
    exact ⟨[], rfl, .missing⟩

theorem written_of_scanUnsigned {negative : Bool} {numeral : Numeral}
    (h : scanUnsigned negative cs = some (numeral, rest)) :
    ∃ magnitude decimal text, cs = text ++ rest ∧ numeral = ⟨negative, magnitude, decimal⟩ ∧
      Numeral.UnsignedWrittenAs magnitude decimal text := by
  unfold scanUnsigned at h
  split at h
  · cases h
  · rename_i whole afterWhole scannedWhole
    split at h
    · cases h
    · rename_i fraction afterFraction scannedFraction
      split at h
      · cases h
      · rename_i exponent afterExponent scannedExponent
        cases h
        obtain ⟨exponentText, rfl, exponentWritten⟩ := written_of_scanExponent scannedExponent
        obtain ⟨fractionText, rfl, fractionWritten⟩ := written_of_scanFraction scannedFraction
        refine ⟨_, _, _, ?_, rfl, .intro fractionWritten exponentWritten⟩
        rw [toDigits_of_scanWhole scannedWhole, List.append_assoc, List.append_assoc]

/-! ## Strings -/

theorem mem_shortEscapes {letter c : Char} (h : shortEscape? letter = some c) :
    (letter, c) ∈ shortEscapes := by
  unfold shortEscape? at h
  split at h
  all_goals cases h
  all_goals simp [shortEscapes]

/-- Four hexadecimal digits write the unit that they amount to. -/
theorem writtenAs_unit {a b c d : Char} {first second third fourth : Nat}
    (ha : Text.IsHexDigit first a) (hb : Text.IsHexDigit second b) (hc : Text.IsHexDigit third c)
    (hd : Text.IsHexDigit fourth d) :
    StringPiece.WrittenAs (.unit (((first * 16 + second) * 16 + third) * 16 + fourth))
      ['\\', 'u', a, b, c, d] := by
  have bounds := And.intro (And.intro ha.1 hb.1) (And.intro hc.1 hd.1)
  apply StringPiece.WrittenAs.unit
  · rwa [show (((first * 16 + second) * 16 + third) * 16 + fourth) / 0x1000 = first by omega]
  · rwa [show (((first * 16 + second) * 16 + third) * 16 + fourth) / 0x100 % 0x10 = second by omega]
  · rwa [show (((first * 16 + second) * 16 + third) * 16 + fourth) / 0x10 % 0x10 = third by omega]
  · rwa [show (((first * 16 + second) * 16 + third) * 16 + fourth) % 0x10 = fourth by omega]

theorem written_of_unit? {a b c d : Char} {code : Nat} (h : unit? a b c d = some code) :
    StringPiece.WrittenAs (.unit code) ['\\', 'u', a, b, c, d] := by
  unfold unit? at h
  split at h
  · rename_i digits
    simp only [List.all_cons, List.all_nil, Bool.and_true, Bool.and_eq_true] at digits
    obtain ⟨first, second, third, fourth⟩ := digits
    cases h
    simpa [Text.digitsValue] using writtenAs_unit (Text.isHexDigit_of_isDigit first)
      (Text.isHexDigit_of_isDigit second) (Text.isHexDigit_of_isDigit third)
      (Text.isHexDigit_of_isDigit fourth)
  · cases h

/-- A string is read piece by piece up to its closing quote. -/
theorem written_of_scanString {pieces : List StringPiece}
    (h : scanString cs = some (pieces, rest)) :
    ∃ text, cs = text ++ '"' :: rest ∧ StringPiece.AllWrittenAs pieces text := by
  fun_induction scanString cs generalizing pieces rest with
  | case1 => cases h
  | case2 =>
    cases h
    exact ⟨[], rfl, .nil⟩
  | case3 a b c d after code others last scanned unit ih =>
    cases h
    obtain ⟨text, rfl, written⟩ := ih scanned
    exact ⟨_, rfl, .cons (written_of_unit? unit) written⟩
  | case4 => cases h
  | case5 letter after _ c others last scanned escape ih =>
    cases h
    obtain ⟨text, rfl, written⟩ := ih scanned
    exact ⟨_, rfl, .cons (.short (mem_shortEscapes escape)) written⟩
  | case6 => cases h
  | case7 => cases h
  | case8 c after quote _ _ plain others last scanned ih =>
    cases h
    obtain ⟨text, rfl, written⟩ := ih scanned
    simp only [Bool.or_eq_true, decide_eq_true_eq, beq_iff_eq, not_or, Nat.not_lt] at plain
    exact ⟨_, rfl, .cons (.raw plain.1 quote plain.2) written⟩
  | case9 => cases h

/-! ## Tokens -/

theorem written_of_next {token : Token} (h : next cs = some (token, rest)) :
    ∃ text, cs = text ++ rest ∧ token.WrittenAs text := by
  unfold next at h
  split at h
  case h_10 =>
    obtain ⟨⟨pieces, after⟩, scanned, same⟩ := Option.map_eq_some_iff.mp h
    cases same
    obtain ⟨text, rfl, written⟩ := written_of_scanString scanned
    refine ⟨'"' :: (text ++ ['"']), by simp, string_of_join written ?_⟩
    cases StringPiece.join pieces with
    | none => rfl
    | some chars => simp
  case h_11 =>
    obtain ⟨⟨numeral, after⟩, scanned, same⟩ := Option.map_eq_some_iff.mp h
    cases same
    obtain ⟨magnitude, decimal, text, rfl, rfl, written⟩ := written_of_scanUnsigned scanned
    exact ⟨'-' :: text, rfl, .number (.negative written)⟩
  case h_12 =>
    obtain ⟨⟨numeral, after⟩, scanned, same⟩ := Option.map_eq_some_iff.mp h
    cases same
    obtain ⟨magnitude, decimal, text, rfl, rfl, written⟩ := written_of_scanUnsigned scanned
    exact ⟨text, rfl, .number (.positive written)⟩
  all_goals
    -- Every other token is written in one way.
    cases h
    refine ⟨_, ?_, by constructor⟩
    rfl

theorem AllWrittenAs.cons_blank {tokens : List Token} {c : Char} {text : List Char}
    (blank : isBlank c = true) (written : AllWrittenAs tokens text) :
    AllWrittenAs tokens (c :: text) := by
  cases written with
  | nil blanks => exact .nil (List.forall_mem_cons.mpr ⟨isBlank_iff.mp blank, blanks⟩)
  | cons blanks head tail =>
    exact .cons (List.forall_mem_cons.mpr ⟨isBlank_iff.mp blank, blanks⟩) head tail

theorem written_of_scan {tokens : List Token} (h : scan cs = some tokens) :
    AllWrittenAs tokens cs := by
  fun_induction scan cs generalizing tokens with
  | case1 =>
    cases h
    exact .nil isBlank_nil
  | case2 c rest blank ih => exact (ih h).cons_blank blank
  | case3 c rest dark token after next shorter ih =>
    obtain ⟨others, scanned, rfl⟩ := Option.map_eq_some_iff.mp h
    obtain ⟨text, same, written⟩ := written_of_next next
    rw [same]
    exact .cons isBlank_nil written (ih scanned)
  | case4 => cases h

end Token

end Json

end DiagnosticRelay
