import DiagnosticRelay.Json.Token
import Mathlib.Data.List.Basic

/-!
# Written numbers

`Numeral.WrittenAs` says which texts write a numeral: its magnitude in decimal digits, without a
zero in front, with a sign before it if it is negative and a fraction or an exponent after it if it
is decimal. The main statement is that `Token.scanUnsigned` reads the numeral back, as long as what
follows does not go on like a number.
-/

namespace DiagnosticRelay

namespace Text

variable {digits rest : List Char}

/-- The decimal digits are the hexadecimal ones that are no letters. -/
theorem digit?_ten (c : Char) :
    digit? 10 c = if c.isDigit then some (c.toNat - '0'.toNat) else none := by
  have range : c.isDigit = true ↔ '0' ≤ c ∧ c ≤ '9' := by
    simp [Char.isDigit, Char.le_def]
  by_cases h : '0' ≤ c ∧ c ≤ '9'
  · rw [if_pos (range.2 h), digit?, hexDigit?, if_pos h]
    simp [Char.le_def, UInt32.le_iff_toNat_le] at h ⊢
    omega
  · rw [if_neg (h ∘ range.1), digit?, hexDigit?, if_neg h]
    split
    · simp
    · split
      · simp
      · rfl

theorem isDigit_ten (c : Char) : isDigit 10 c = c.isDigit := by
  rw [isDigit, digit?_ten]
  cases c.isDigit <;> rfl

/-- The value of decimal digits is the number that the core library reads from them. -/
theorem digitsValue_ten (h : ∀ c ∈ digits, c.isDigit = true) :
    digitsValue 10 digits = Nat.ofDigitChars 10 digits 0 := by
  refine List.foldl_ext _ _ 0 fun value c mem => ?_
  rw [digit?_ten, if_pos (h c mem), Option.getD_some, Nat.mul_comm]

theorem isDigit_of_mem_toDigits {n : Nat} {c : Char} (mem : c ∈ Nat.toDigits 10 n) :
    c.isDigit = true :=
  Nat.isDigit_of_mem_toDigits (by decide) (by decide) mem

@[simp] theorem digitsValue_toDigits (n : Nat) : digitsValue 10 (Nat.toDigits 10 n) = n := by
  rw [digitsValue_ten fun _ => isDigit_of_mem_toDigits, Nat.ofDigitChars_ten_toDigits]

/-- The digits of a number that is not zero do not begin with a zero. -/
theorem head?_toDigits_ne {n : Nat} (h : n ≠ 0) : (Nat.toDigits 10 n).head? ≠ some '0' := by
  induction n using Nat.strongRecOn with
  | ind n ih =>
    rw [Nat.toDigits_eq_if (by decide)]
    split
    · simpa using h
    · rw [List.head?_append_of_ne_nil _ Nat.toDigits_ne_nil]
      exact ih (n / 10) (by omega) (by omega)

end Text

namespace Json

/-- At least one digit and nothing else. -/
def IsDigits (digits : List Char) : Prop :=
  digits ≠ [] ∧ ∀ c ∈ digits, c.isDigit = true

/-- The ways to write a fraction, which may be missing. -/
inductive FractionWrittenAs : Bool → List Char → Prop where
  | missing : FractionWrittenAs false []
  | present {digits : List Char} (digitsOnly : IsDigits digits) :
      FractionWrittenAs true ('.' :: digits)

/-- The ways to write an exponent, which may be missing. -/
inductive ExponentWrittenAs : Bool → List Char → Prop where
  | missing : ExponentWrittenAs false []
  | present {letter : Char} {sign digits : List Char} (letter_mem : letter ∈ ['e', 'E'])
      (sign_mem : sign ∈ [[], ['+'], ['-']]) (digitsOnly : IsDigits digits) :
      ExponentWrittenAs true (letter :: (sign ++ digits))

/-- The ways to write a numeral without its sign. -/
inductive Numeral.UnsignedWrittenAs : Nat → Bool → List Char → Prop where
  | intro {magnitude : Nat} {fraction exponent : Bool} {fractionText exponentText : List Char}
      (fractionWritten : FractionWrittenAs fraction fractionText)
      (exponentWritten : ExponentWrittenAs exponent exponentText) :
      UnsignedWrittenAs magnitude (fraction || exponent)
        (Nat.toDigits 10 magnitude ++ (fractionText ++ exponentText))

/-- The ways to write a numeral. -/
inductive Numeral.WrittenAs : Numeral → List Char → Prop where
  | positive {magnitude : Nat} {decimal : Bool} {text : List Char}
      (unsigned : UnsignedWrittenAs magnitude decimal text) :
      WrittenAs ⟨false, magnitude, decimal⟩ text
  | negative {magnitude : Nat} {decimal : Bool} {text : List Char}
      (unsigned : UnsignedWrittenAs magnitude decimal text) :
      WrittenAs ⟨true, magnitude, decimal⟩ ('-' :: text)

theorem Numeral.exists_writtenAs (numeral : Numeral) : ∃ text, numeral.WrittenAs text := by
  have zeroDigit : IsDigits ['0'] := ⟨List.cons_ne_nil _ _, List.forall_mem_singleton.2 rfl⟩
  have unsigned : ∃ text, UnsignedWrittenAs numeral.magnitude numeral.decimal text := by
    cases numeral.decimal with
    | false => exact ⟨_, .intro .missing .missing⟩
    | true => exact ⟨_, .intro (.present zeroDigit) .missing⟩
  obtain ⟨text, written⟩ := unsigned
  obtain ⟨negative, magnitude, decimal⟩ := numeral
  cases negative with
  | false => exact ⟨text, .positive written⟩
  | true => exact ⟨'-' :: text, .negative written⟩

/-- The text does not begin with a digit. -/
def EndsDigits (rest : List Char) : Prop :=
  ∀ c, rest.head? = some c → c.isDigit = false

/-- The text does not begin with a character that a number could go on with. -/
def EndsNumber (rest : List Char) : Prop :=
  ∀ c, rest.head? = some c → c.isDigit = false ∧ c ≠ '.' ∧ c ≠ 'e' ∧ c ≠ 'E'

namespace Token

variable {digits text rest : List Char}

theorem scanDigits_append (digitsOnly : IsDigits digits) (ends : EndsDigits rest) :
    scanDigits (digits ++ rest) = some (digits, rest) := by
  have all : ∀ c ∈ digits, Text.isDigit 10 c = true := fun c mem => by
    rw [Text.isDigit_ten, digitsOnly.2 c mem]
  have stops : rest.takeWhile (Text.isDigit 10) = [] ∧ rest.dropWhile (Text.isDigit 10) = rest := by
    cases rest with
    | nil => exact ⟨rfl, rfl⟩
    | cons c after =>
      have other : Text.isDigit 10 c = false := by rw [Text.isDigit_ten, ends c rfl]
      simp [other]
  rw [scanDigits, List.takeWhile_append_of_pos all, List.dropWhile_append_of_pos all, stops.1,
    stops.2, List.append_nil, if_neg]
  simpa using digitsOnly.1

theorem scanWhole_of_head?_ne {cs : List Char} (h : cs.head? ≠ some '0') :
    scanWhole cs = scanDigits cs := by
  unfold scanWhole
  split
  · exact absurd rfl h
  · rfl

theorem scanWhole_toDigits (n : Nat) (ends : EndsDigits rest) :
    scanWhole (Nat.toDigits 10 n ++ rest) = some (Nat.toDigits 10 n, rest) := by
  -- A zero stands alone; the digits of another number are a run that does not begin with one.
  by_cases zero : n = 0
  · rw [zero, Nat.toDigits_zero]
    rfl
  · have digitsOnly : IsDigits (Nat.toDigits 10 n) :=
      ⟨Nat.toDigits_ne_nil, fun _ => Text.isDigit_of_mem_toDigits⟩
    rw [scanWhole_of_head?_ne, scanDigits_append digitsOnly ends]
    rw [List.head?_append_of_ne_nil _ Nat.toDigits_ne_nil]
    exact Text.head?_toDigits_ne zero

theorem scanFraction_append {fraction : Bool} (written : FractionWrittenAs fraction text)
    (ends : EndsDigits rest) (point : rest.head? ≠ some '.') :
    scanFraction (text ++ rest) = some (fraction, rest) := by
  cases written with
  | missing =>
    rw [List.nil_append]
    unfold scanFraction
    split
    · exact absurd rfl point
    · rfl
  | present digitsOnly =>
    rw [List.cons_append, scanFraction, scanDigits_append digitsOnly ends, Option.map_some]

/-- The sign of an exponent is passed over. -/
theorem scanExponent_cons {letter : Char} {sign : List Char} (letter_mem : letter ∈ ['e', 'E'])
    (sign_mem : sign ∈ [[], ['+'], ['-']]) (digitsOnly : IsDigits digits) :
    scanExponent (letter :: (sign ++ (digits ++ rest))) =
      (scanDigits (digits ++ rest)).map fun (_, after) => (true, after) := by
  obtain ⟨nonempty, all⟩ := digitsOnly
  cases digits with
  | nil => exact absurd rfl nonempty
  | cons d ds =>
    have digit := all d List.mem_cons_self
    have plus : d ≠ '+' := by rintro rfl; exact absurd digit (by decide)
    have minus : d ≠ '-' := by rintro rfl; exact absurd digit (by decide)
    simp only [List.mem_cons, List.not_mem_nil, or_false] at letter_mem sign_mem
    rcases letter_mem with rfl | rfl <;> rcases sign_mem with rfl | rfl | rfl <;>
      simp [scanExponent, plus, minus]

theorem scanExponent_append {exponent : Bool} (written : ExponentWrittenAs exponent text)
    (ends : EndsNumber rest) : scanExponent (text ++ rest) = some (exponent, rest) := by
  cases written with
  | missing =>
    cases rest with
    | nil => rfl
    | cons c after =>
      obtain ⟨_, _, small, capital⟩ := ends c rfl
      simp [scanExponent, small, capital]
  | @present letter sign digits letter_mem sign_mem digitsOnly =>
    rw [List.cons_append, List.append_assoc, scanExponent_cons letter_mem sign_mem digitsOnly,
      scanDigits_append digitsOnly fun c first => (ends c first).1, Option.map_some]

/-- Neither a digit nor a point follows a fraction, whether or not there is an exponent. -/
theorem endsDigits_exponent {exponent : Bool} (written : ExponentWrittenAs exponent text)
    (ends : EndsNumber rest) : EndsDigits (text ++ rest) ∧ (text ++ rest).head? ≠ some '.' := by
  cases written with
  | missing => exact ⟨fun c first => (ends c first).1, fun first => (ends '.' first).2.1 rfl⟩
  | @present letter sign digits letter_mem sign_mem digitsOnly =>
    have letter_eq : letter = 'e' ∨ letter = 'E' := by simpa using letter_mem
    rcases letter_eq with rfl | rfl
    · exact ⟨fun c first => by cases first; rfl, by simp⟩
    · exact ⟨fun c first => by cases first; rfl, by simp⟩

theorem scanUnsigned_written {decimal : Bool} {magnitude : Nat} (negative : Bool)
    (written : Numeral.UnsignedWrittenAs magnitude decimal text) (ends : EndsNumber rest) :
    scanUnsigned negative (text ++ rest) = some (⟨negative, magnitude, decimal⟩, rest) := by
  cases written with
  | @intro fraction exponent fractionText exponentText fractionWritten exponentWritten =>
    obtain ⟨endsDigits, point⟩ := endsDigits_exponent exponentWritten ends
    rw [List.append_assoc, List.append_assoc, scanUnsigned, scanWhole_toDigits]
    · simp only [scanFraction_append fractionWritten endsDigits point,
        scanExponent_append exponentWritten ends, Text.digitsValue_toDigits]
    · cases fractionWritten with
      | missing => exact endsDigits
      | present digitsOnly => exact fun c first => by cases first; rfl

end Token

end Json

end DiagnosticRelay
