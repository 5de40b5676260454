import DiagnosticRelay.Proofs.Json.Numeral
import DiagnosticRelay.Proofs.Json.Spelling
import Mathlib.Data.List.Chain

/-!
# Written tokens

`Token.WrittenAs` says how a token may be written and `Token.AllWrittenAs` how a list of them may,
with any blanks between. The main statement is that `Token.scan` reads the list back, provided no
two numbers stand next to each other; no value makes them.
-/

namespace DiagnosticRelay.Json.Token

open StringPiece

/-- The ways to write a token. A string without a text is written in pieces that spell nothing. -/
inductive WrittenAs : Token → List Char → Prop where
  | openArray : WrittenAs .openArray ['[']
  | closeArray : WrittenAs .closeArray [']']
  | openObject : WrittenAs .openObject ['\x7b']
  | closeObject : WrittenAs .closeObject ['\x7d']
  | comma : WrittenAs .comma [',']
  | colon : WrittenAs .colon [':']
  | null : WrittenAs .null ['n', 'u', 'l', 'l']
  | literalTrue : WrittenAs (.bool true) ['t', 'r', 'u', 'e']
  | literalFalse : WrittenAs (.bool false) ['f', 'a', 'l', 's', 'e']
  | number {numeral : Numeral} {text : List Char} (written : numeral.WrittenAs text) :
      WrittenAs (.number numeral) text
  | string {text? : Option String} {pieces : List StringPiece} {text : List Char}
      (written : StringPiece.AllWrittenAs pieces text)
      (spelled : ∀ chars, text?.map String.toList = some chars ↔ Spells pieces chars) :
      WrittenAs (.string text?) ('"' :: (text ++ ['"']))

/-- Blanks only. -/
def IsBlank (text : List Char) : Prop :=
  ∀ c ∈ text, c ∈ [' ', '\t', '\n', '\r']

instance (text : List Char) : Decidable (IsBlank text) :=
  List.decidableBAll _ text

/-- The ways to write tokens one after another, with any blanks around them. -/
inductive AllWrittenAs : List Token → List Char → Prop where
  | nil {blanks : List Char} (blank : IsBlank blanks) : AllWrittenAs [] blanks
  | cons {token : Token} {tokens : List Token} {blanks text rest : List Char}
      (blank : IsBlank blanks) (head : token.WrittenAs text) (tail : AllWrittenAs tokens rest) :
      AllWrittenAs (token :: tokens) (blanks ++ (text ++ rest))

/-- Whether the token is a number. -/
def isNumber : Token → Bool
  | number _ => true
  | _ => false

/-- No two numbers stand next to each other. -/
def Spaced (tokens : List Token) : Prop :=
  tokens.IsChain fun token follower => token.isNumber = false ∨ follower.isNumber = false

variable {token : Token} {tokens : List Token} {text rest : List Char}

/-! ## One token -/

theorem isBlank_iff {c : Char} : isBlank c = true ↔ c ∈ [' ', '\t', '\n', '\r'] := by
  simp [isBlank, or_assoc]

/-- The text of a string is what its pieces spell. -/
theorem text_of_pieces {text? : Option String} {pieces : List StringPiece}
    (spelled : ∀ chars, text?.map String.toList = some chars ↔ Spells pieces chars) :
    (join pieces).map String.ofList = text? := by
  cases joined : join pieces with
  | none =>
    cases text? with
    | none => rfl
    | some text =>
      have spells := join_eq_some_of_spells ((spelled text.toList).1 rfl)
      rw [joined] at spells
      cases spells
  | some chars =>
    have same := (spelled chars).2 (spells_of_join joined)
    cases text? with
    | none => cases same
    | some text =>
      cases same
      exact congrArg some (String.ofList_toList)

theorem isDigit_of_unsigned {magnitude : Nat} {decimal : Bool}
    (written : Numeral.UnsignedWrittenAs magnitude decimal text) :
    ∃ c tail, text = c :: tail ∧ c.isDigit = true := by
  cases written with
  | intro fractionWritten exponentWritten =>
    have nonempty : Nat.toDigits 10 magnitude ≠ [] := Nat.toDigits_ne_nil
    obtain ⟨c, tail, digits⟩ := List.exists_cons_of_ne_nil nonempty
    have c_mem : c ∈ Nat.toDigits 10 magnitude := digits ▸ List.mem_cons_self
    exact ⟨c, _, by rw [digits, List.cons_append], Text.isDigit_of_mem_toDigits c_mem⟩

/-- The digit in front makes the text a number. -/
theorem next_of_isDigit {c : Char} (digit : c.isDigit = true) :
    next (c :: rest) =
      (scanUnsigned false (c :: rest)).map fun (numeral, rest) => (number numeral, rest) := by
  unfold next
  split
  case h_12 => rfl
  -- No digit is one of the characters that the other tokens begin with.
  all_goals
    rename_i same
    cases same
    exact absurd digit (by decide)

theorem next_written (written : token.WrittenAs text)
    (ends : token.isNumber = true → EndsNumber rest) :
    next (text ++ rest) = some (token, rest) := by
  cases written with
  | openArray | closeArray | openObject | closeObject | comma | colon | null | literalTrue
  | literalFalse => rfl
  | number written =>
    cases written with
    | positive unsigned =>
      have scanned := scanUnsigned_written false unsigned (ends rfl)
      obtain ⟨c, tail, rfl, digit⟩ := isDigit_of_unsigned unsigned
      rw [List.cons_append] at scanned ⊢
      rw [next_of_isDigit digit, scanned, Option.map_some]
    | negative unsigned =>
      rw [List.cons_append, next, scanUnsigned_written true unsigned (ends rfl), Option.map_some]
  | string written spelled =>
    rw [List.cons_append, List.append_assoc, List.singleton_append, next,
      scanString_written written, Option.map_some]
    exact congrArg (fun text? => some (Token.string text?, rest)) (text_of_pieces spelled)

theorem string_of_join {text? : Option String} {pieces : List StringPiece} {text : List Char}
    (written : StringPiece.AllWrittenAs pieces text)
    (joined : join pieces = text?.map String.toList) :
    WrittenAs (.string text?) ('"' :: (text ++ ['"'])) :=
  .string written fun chars => by rw [← joined, join_eq_some_iff]

/-- A string may be written as it stands if none of its characters has a meaning of its own. -/
theorem string_of_plain {chars : List Char}
    (plain : IsPlain chars) :
    WrittenAs (.string (some (String.ofList chars))) ('"' :: (chars ++ ['"'])) := by
  obtain ⟨written, spelled⟩ := allWrittenAs_plain plain
  apply string_of_join written
  rw [join_eq_some_of_spells spelled, Option.map_some, String.toList_ofList]

/-- Every token can be written. A string without a text takes an unpaired surrogate. -/
theorem exists_writtenAs (token : Token) : ∃ text, token.WrittenAs text := by
  cases token with
  | openArray => exact ⟨_, .openArray⟩
  | closeArray => exact ⟨_, .closeArray⟩
  | openObject => exact ⟨_, .openObject⟩
  | closeObject => exact ⟨_, .closeObject⟩
  | comma => exact ⟨_, .comma⟩
  | colon => exact ⟨_, .colon⟩
  | null => exact ⟨_, .null⟩
  | bool value =>
    cases value with
    | true => exact ⟨_, .literalTrue⟩
    | false => exact ⟨_, .literalFalse⟩
  | number numeral =>
    obtain ⟨text, written⟩ := numeral.exists_writtenAs
    exact ⟨text, .number written⟩
  | string text? =>
    cases text? with
    | some text =>
      obtain ⟨pieces, written, allWritten, spelled⟩ := exists_spelling text.toList
      exact ⟨_, string_of_join allWritten (join_eq_some_of_spells spelled)⟩
    | none =>
      obtain ⟨text, written⟩ := exists_writtenAs_unit (show 0xD800 < 0x10000 by decide)
      exact ⟨_, string_of_join (.cons written .nil) (by decide)⟩

/-! ## Tokens in a row -/

theorem isBlank_nil : IsBlank [] :=
  fun _ h => nomatch h

theorem exists_allWrittenAs (tokens : List Token) : ∃ text, AllWrittenAs tokens text := by
  induction tokens with
  | nil => exact ⟨_, .nil isBlank_nil⟩
  | cons token tokens ih =>
    obtain ⟨text, written⟩ := token.exists_writtenAs
    obtain ⟨rest, restWritten⟩ := ih
    exact ⟨_, .cons isBlank_nil written restWritten⟩

theorem scan_blanks {blanks : List Char} (blank : IsBlank blanks) :
    scan (blanks ++ text) = scan text := by
  induction blanks with
  | nil => rfl
  | cons c blanks ih =>
    obtain ⟨first, others⟩ := List.forall_mem_cons.1 blank
    rw [List.cons_append, scan, if_pos (isBlank_iff.2 first), ih others]

theorem scan_of_next {c : Char} (dark : isBlank c = false)
    (h : next (c :: text) = some (token, rest)) :
    scan (c :: text) = (scan rest).map (token :: ·) := by
  rw [scan, if_neg (by simp [dark])]
  split
  · rename_i other after same
    rw [h] at same
    cases same
    rfl
  · rename_i same
    rw [h] at same
    cases same

/-- A token begins with a character that is no blank. Unless the token is a number, no number goes
on with that character. -/
theorem first_of_written (written : token.WrittenAs text) :
    ∃ c tail, text = c :: tail ∧ isBlank c = false ∧
      (token.isNumber = false → c.isDigit = false ∧ c ≠ '.' ∧ c ≠ 'e' ∧ c ≠ 'E') := by
  cases written with
  | openArray | closeArray | openObject | closeObject | comma | colon | null | literalTrue
  | literalFalse | string => exact ⟨_, _, rfl, by decide, fun _ => by decide⟩
  | number written =>
    cases written with
    | positive unsigned =>
      obtain ⟨c, tail, rfl, digit⟩ := isDigit_of_unsigned unsigned
      refine ⟨c, tail, rfl, Bool.eq_false_iff.2 fun blank => ?_, fun other => nomatch other⟩
      have c_mem := isBlank_iff.1 blank
      simp only [List.mem_cons, List.not_mem_nil, or_false] at c_mem
      rcases c_mem with rfl | rfl | rfl | rfl <;> exact absurd digit (by decide)
    | negative unsigned => exact ⟨_, _, rfl, by decide, fun other => nomatch other⟩

theorem endsNumber_of_isBlank {c : Char} (blank : c ∈ [' ', '\t', '\n', '\r']) :
    EndsNumber (c :: text) := by
  rintro _ ⟨⟩
  simp only [List.mem_cons, List.not_mem_nil, or_false] at blank
  rcases blank with rfl | rfl | rfl | rfl <;> decide

/-- A number is not followed by a character that it could go on with, if what follows it is not a
number. -/
theorem endsNumber_of_written (written : AllWrittenAs tokens text)
    (other : ∀ follower, tokens.head? = some follower → follower.isNumber = false) :
    EndsNumber text := by
  cases written with
  | @nil blanks blank =>
    cases text with
    | nil => exact fun c first => nomatch first
    | cons c text => exact endsNumber_of_isBlank (blank c List.mem_cons_self)
  | @cons token tokens blanks text rest blank head tail =>
    cases blanks with
    | nil =>
      obtain ⟨c, more, rfl, -, ends⟩ := first_of_written head
      rintro _ ⟨⟩
      exact ends (other token rfl)
    | cons c blanks => exact endsNumber_of_isBlank (blank c List.mem_cons_self)

theorem scan_written (written : AllWrittenAs tokens text) (spaced : Spaced tokens) :
    scan text = some tokens := by
  -- Only a number looks at what follows it, and `spaced` says that this is not a number.
  induction written with
  | @nil blanks blank => rw [← List.append_nil blanks, scan_blanks blank, scan]
  | @cons token tokens blanks text rest blank head tail ih =>
    obtain ⟨follows, spacedTail⟩ := List.isChain_cons.1 spaced
    have ends : token.isNumber = true → EndsNumber rest := fun isNumber =>
      endsNumber_of_written tail fun follower first => by
        simpa [isNumber] using follows follower first
    obtain ⟨c, more, rfl, dark, -⟩ := first_of_written head
    have read := next_written head ends
    rw [List.cons_append] at read
    rw [scan_blanks blank, List.cons_append, scan_of_next dark read, ih spacedTail, Option.map_some]

end DiagnosticRelay.Json.Token
