import DiagnosticRelay.Text.Digits

/-!
# Tokens of JSON

The pieces of a JSON text: punctuation, literals, numbers and strings, with blanks between them.
`Token.scan` cuts a text into tokens. Two scalars that touch each other become two tokens, which no
value allows, so nothing is lost by scanning before the structure is read.

A string may spell halves of a surrogate pair that do not belong together. Such a string has the
form of a string but no text, and it is up to the reader whether that matters.
-/

namespace DiagnosticRelay.Json

/-- What a number literal says. -/
structure Numeral where
  /-- Whether a minus sign stands in front. -/
  negative : Bool
  /-- The number in front of the decimal point. -/
  magnitude : Nat
  /-- Whether a fraction or an exponent follows. -/
  decimal : Bool
deriving DecidableEq, Repr

/-- The integer that a numeral denotes. A numeral with a fraction or an exponent denotes none, not
even a whole number; nor does a zero with a minus sign. -/
def Numeral.toInt? (numeral : Numeral) : Option Int :=
  if numeral.decimal then none
  else if numeral.negative then
    if numeral.magnitude = 0 then none else some (-numeral.magnitude)
  else some numeral.magnitude

/-- The pieces of a JSON text. -/
inductive Token where
  | openArray
  | closeArray
  | openObject
  | closeObject
  | comma
  | colon
  | null
  | bool (value : Bool)
  | number (numeral : Numeral)
  /-- A string, with its text if it has one. -/
  | string (text? : Option String)
deriving DecidableEq, Repr

/-- A piece of a string: a character, or a 16-bit unit written as an escape. -/
inductive StringPiece where
  | char (c : Char)
  | unit (code : Nat)
deriving DecidableEq, Repr

namespace StringPiece

/-- Whether a unit is the first half of a surrogate pair. -/
def isHighSurrogate (code : Nat) : Bool :=
  0xD800 ≤ code && code < 0xDC00

/-- Whether a unit is the second half of a surrogate pair. -/
def isLowSurrogate (code : Nat) : Bool :=
  0xDC00 ≤ code && code < 0xE000

/-- The code point of a surrogate pair, which holds ten bits in each half. -/
def pairCode (high low : Nat) : Nat :=
  0x10000 + high % 0x400 * 0x400 + low % 0x400

/-- The characters that the pieces spell. Surrogates count only in pairs, first half first. -/
def join : List StringPiece → Option (List Char)
  | [] => some []
  | char c :: rest => (join rest).map (c :: ·)
  | unit high :: unit low :: rest =>
    if isHighSurrogate high && isLowSurrogate low then
      match Text.scalar? (pairCode high low) with
      | some c => (join rest).map (c :: ·)
      | none => none
    else
      match Text.scalar? high with
      | some c => (join (unit low :: rest)).map (c :: ·)
      | none => none
  | unit code :: rest =>
    match Text.scalar? code with
    | some c => (join rest).map (c :: ·)
    | none => none

end StringPiece

namespace Token

/-- The characters that may stand between tokens. -/
def isBlank (c : Char) : Bool :=
  c == ' ' || c == '\t' || c == '\n' || c == '\r'

/-- The character of an escape of one letter. -/
def shortEscape? : Char → Option Char
  | '"' => some '"'
  | '\\' => some '\\'
  | '/' => some '/'
  | 'b' => some '\x08'
  | 'f' => some '\x0c'
  | 'n' => some '\n'
  | 'r' => some '\r'
  | 't' => some '\t'
  | _ => none

/-- The unit of four hexadecimal digits. -/
def unit? (a b c d : Char) : Option Nat :=
  if [a, b, c, d].all (Text.isDigit 16) then some (Text.digitsValue 16 [a, b, c, d]) else none

/-- The pieces of a string after its opening quote, and what follows its closing quote. Control
characters may only be written as escapes. -/
def scanString : List Char → Option (List StringPiece × List Char)
  | [] => none
  | '"' :: rest => some ([], rest)
  | '\\' :: 'u' :: a :: b :: c :: d :: rest =>
    match unit? a b c d, scanString rest with
    | some code, some (pieces, rest) => some (.unit code :: pieces, rest)
    | _, _ => none
  | '\\' :: letter :: rest =>
    match shortEscape? letter, scanString rest with
    | some c, some (pieces, rest) => some (.char c :: pieces, rest)
    | _, _ => none
  | c :: rest =>
    if c.toNat < 0x20 || c == '\\' then none
    else match scanString rest with
      | some (pieces, rest) => some (.char c :: pieces, rest)
      | none => none

/-- A run of at least one digit, and what follows it. -/
def scanDigits (cs : List Char) : Option (List Char × List Char) :=
  let digits := cs.takeWhile (Text.isDigit 10)
  if digits.isEmpty then none else some (digits, cs.dropWhile (Text.isDigit 10))

/-- The digits in front of a decimal point: a zero, or a run that does not begin with one. -/
def scanWhole : List Char → Option (List Char × List Char)
  | '0' :: rest => some (['0'], rest)
  | cs => scanDigits cs

/-- An optional fraction. The flag says whether there is one. -/
def scanFraction : List Char → Option (Bool × List Char)
  | '.' :: rest => (scanDigits rest).map fun (_, rest) => (true, rest)
  | cs => some (false, cs)

/-- An optional exponent. The flag says whether there is one. -/
def scanExponent : List Char → Option (Bool × List Char)
  | c :: rest =>
    if c == 'e' || c == 'E' then
      let unsigned := match rest with
        | '+' :: rest => rest
        | '-' :: rest => rest
        | rest => rest
      (scanDigits unsigned).map fun (_, rest) => (true, rest)
    else some (false, c :: rest)
  | [] => some (false, [])

/-- A number literal without its sign. -/
def scanUnsigned (negative : Bool) (cs : List Char) : Option (Numeral × List Char) :=
  match scanWhole cs with
  | none => none
  | some (whole, cs) =>
    match scanFraction cs with
    | none => none
    | some (fraction, cs) =>
      match scanExponent cs with
      | none => none
      | some (exponent, cs) =>
        some (⟨negative, Text.digitsValue 10 whole, fraction || exponent⟩, cs)

/-- The first token of a text that does not begin with a blank, and what follows it. -/
def next : List Char → Option (Token × List Char)
  | '[' :: rest => some (openArray, rest)
  | ']' :: rest => some (closeArray, rest)
  | '\x7b' :: rest => some (openObject, rest)
  | '\x7d' :: rest => some (closeObject, rest)
  | ',' :: rest => some (comma, rest)
  | ':' :: rest => some (colon, rest)
  | 'n' :: 'u' :: 'l' :: 'l' :: rest => some (null, rest)
  | 't' :: 'r' :: 'u' :: 'e' :: rest => some (bool true, rest)
  | 'f' :: 'a' :: 'l' :: 's' :: 'e' :: rest => some (bool false, rest)
  | '"' :: rest =>
    (scanString rest).map fun (pieces, rest) =>
      (string ((StringPiece.join pieces).map String.ofList), rest)
  | '-' :: rest => (scanUnsigned true rest).map fun (numeral, rest) => (number numeral, rest)
  | cs => (scanUnsigned false cs).map fun (numeral, rest) => (number numeral, rest)

theorem scanString_length {cs rest : List Char} {pieces : List StringPiece}
    (h : scanString cs = some (pieces, rest)) : rest.length < cs.length := by
  fun_induction scanString cs generalizing pieces rest with
  | case1 => simp at h
  | case2 => simp_all
  | case3 a b c d after code _ tail _ _ ih =>
    have := ih ‹_›
    simp_all
    omega
  | case4 => simp at h
  | case5 letter after _ c tail _ _ _ ih =>
    have := ih ‹_›
    simp_all
    omega
  | case6 => simp at h
  | case7 => simp at h
  | case8 c after _ _ _ _ tail rest' _ ih =>
    have := ih ‹_›
    simp_all
    omega
  | case9 => simp at h

theorem scanDigits_length {cs digits rest : List Char} (h : scanDigits cs = some (digits, rest)) :
    rest.length < cs.length := by
  simp only [scanDigits] at h
  split at h
  · simp at h
  · rename_i nonempty
    obtain ⟨rfl, rfl⟩ : _ = digits ∧ _ = rest := by simpa using h
    have hsplit := congrArg List.length
      (List.takeWhile_append_dropWhile (p := Text.isDigit 10) (l := cs))
    have : 0 < (cs.takeWhile (Text.isDigit 10)).length := by
      rw [List.length_pos_iff]
      simpa using nonempty
    simp only [List.length_append] at hsplit
    omega

theorem scanWhole_length {cs digits rest : List Char} (h : scanWhole cs = some (digits, rest)) :
    rest.length < cs.length := by
  unfold scanWhole at h
  split at h
  · simp_all
  · exact scanDigits_length h

theorem scanFraction_length {cs rest : List Char} {fraction : Bool}
    (h : scanFraction cs = some (fraction, rest)) : rest.length ≤ cs.length := by
  unfold scanFraction at h
  split at h
  · obtain ⟨⟨digits, after⟩, hd, heq⟩ := Option.map_eq_some_iff.1 h
    have := scanDigits_length hd
    simp_all
    omega
  · simp_all

theorem scanExponent_length {cs rest : List Char} {exponent : Bool}
    (h : scanExponent cs = some (exponent, rest)) : rest.length ≤ cs.length := by
  unfold scanExponent at h
  split at h
  · split at h
    · obtain ⟨⟨digits, after⟩, hd, heq⟩ := Option.map_eq_some_iff.1 h
      have := scanDigits_length hd
      split at this <;> simp_all <;> omega
    · simp_all
  · simp_all

theorem scanUnsigned_length {negative : Bool} {cs rest : List Char} {numeral : Numeral}
    (h : scanUnsigned negative cs = some (numeral, rest)) : rest.length < cs.length := by
  unfold scanUnsigned at h
  split at h
  · simp at h
  · rename_i whole afterWhole hw
    split at h
    · simp at h
    · rename_i fraction afterFraction hf
      split at h
      · simp at h
      · rename_i exponent afterExponent he
        have := scanWhole_length hw
        have := scanFraction_length hf
        have := scanExponent_length he
        simp_all
        omega

/-- Every token takes at least one character. -/
theorem next_length {cs rest : List Char} {token : Token} (h : next cs = some (token, rest)) :
    rest.length < cs.length := by
  unfold next at h
  split at h
  case h_10 =>
    obtain ⟨⟨pieces, after⟩, hs, heq⟩ := Option.map_eq_some_iff.1 h
    have := scanString_length hs
    simp_all
    omega
  case h_11 =>
    obtain ⟨⟨numeral, after⟩, hs, heq⟩ := Option.map_eq_some_iff.1 h
    have := scanUnsigned_length hs
    simp_all
    omega
  case h_12 =>
    obtain ⟨⟨numeral, after⟩, hs, heq⟩ := Option.map_eq_some_iff.1 h
    have := scanUnsigned_length hs
    simp_all
  all_goals
    simp only [Option.some.injEq, Prod.mk.injEq] at h
    simp only [← h.2, List.length_cons]
    omega

/-- The tokens of a text. -/
def scan : List Char → Option (List Token)
  | [] => some []
  | c :: rest =>
    if isBlank c then scan rest
    else match h : next (c :: rest) with
      | some (token, after) =>
        have : after.length < rest.length + 1 := next_length h
        (scan after).map (token :: ·)
      | none => none
termination_by cs => cs.length

end Token

end DiagnosticRelay.Json
