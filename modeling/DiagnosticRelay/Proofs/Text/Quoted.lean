import DiagnosticRelay.Proofs.Json.Scanned
import DiagnosticRelay.Text.Quoted

/-!
# Quoted text is read back

A character between quotes is written with a backslash and a letter, as itself, or by its code
point. Which of the last two it is does not matter: each way says where it ends and which character
it stands for. So `unquoteChar?` takes a quoted text apart again, two texts are never quoted alike,
and no quoted text spreads over two lines.
-/

namespace DiagnosticRelay.Text

/-! ## Hexadecimal digits -/

theorem digit?_digitChar {value : Nat} (small : value < 16) :
    digit? 16 value.digitChar = some value := by
  have all : ∀ value < 16, digit? 16 value.digitChar = some value := by decide
  exact all value small

theorem digitsValue_toDigits_sixteen (n : Nat) : digitsValue 16 (Nat.toDigits 16 n) = n := by
  induction n using Nat.strongRecOn with
  | ind n ih =>
    rw [Nat.toDigits_eq_if (by decide)]
    split
    · rename_i small
      simp [digitsValue, digit?_digitChar small]
    · rename_i large
      rw [digitsValue_concat, ih (n / 16) (by omega), digit?_digitChar (Nat.mod_lt n (by decide)),
        Option.getD_some]
      omega

theorem exists_digitChar_of_mem_toDigits {n : Nat} {c : Char} (mem : c ∈ Nat.toDigits 16 n) :
    ∃ value : Nat, value.digitChar = c := by
  induction n using Nat.strongRecOn with
  | ind n ih =>
    rw [Nat.toDigits_eq_if (by decide)] at mem
    split at mem
    · exact ⟨n, (List.mem_singleton.mp mem).symm⟩
    · obtain earlier | last := List.mem_append.mp mem
      · exact ih (n / 16) (by omega) earlier
      · exact ⟨n % 16, (List.mem_singleton.mp last).symm⟩

theorem not_mem_toDigits {n : Nat} {c : Char} (other : ∀ value : Nat, value.digitChar ≠ c) :
    c ∉ Nat.toDigits 16 n := by
  intro mem
  obtain ⟨value, same⟩ := exists_digitChar_of_mem_toDigits mem
  exact other value same

/-! ## One character -/

/-- The letters behind a backslash with the characters that they stand for. -/
def escapeLetters : List (Char × Char) :=
  [('0', '\x00'), ('t', '\t'), ('r', '\r'), ('n', '\n'), ('"', '"'), ('\\', '\\')]

/-- The ways to write a character between quotes. -/
inductive QuotedAs (c : Char) : List Char → Prop where
  | letter {letter : Char} (known : (letter, c) ∈ escapeLetters) : QuotedAs c ['\\', letter]
  | bare (noQuote : c ≠ '"') (noBackslash : c ≠ '\\') (noFeed : c ≠ '\n') : QuotedAs c [c]
  | code : QuotedAs c (codeEscape c)

theorem quotedAs_quoteChar (c : Char) : QuotedAs c (quoteChar c) := by
  unfold quoteChar
  split
  · exact .letter (by decide)
  · exact .letter (by decide)
  · exact .letter (by decide)
  · exact .letter (by decide)
  · exact .letter (by decide)
  · exact .letter (by decide)
  · rename_i noFeed noQuote noBackslash
    split
    · exact .bare noQuote noBackslash noFeed
    · exact .code

/-- The first character that is written between quotes, with what follows it. -/
def unquoteChar? : List Char → Option (Char × List Char)
  | '\\' :: 'u' :: '\x7b' :: rest =>
    let digits := rest.takeWhile (· != '\x7d')
    (scalar? (digitsValue 16 digits)).map (·, rest.drop (digits.length + 1))
  | '\\' :: letter :: rest => (escapeLetters.lookup letter).map (·, rest)
  | '"' :: _ => none
  | c :: rest => some (c, rest)
  | [] => none

theorem unquoteChar?_codeEscape (c : Char) (rest : List Char) :
    unquoteChar? (codeEscape c ++ rest) = some (c, rest) := by
  have inside : ∀ d ∈ Nat.toDigits 16 c.toNat, (d != '\x7d') = true := by
    intro d mem
    have other : '\x7d' ∉ Nat.toDigits 16 c.toNat :=
      not_mem_toDigits fun _ => Nat.digitChar_ne _ (by decide)
    simpa using fun same : d = '\x7d' => other (same ▸ mem)
  have split : codeEscape c ++ rest =
      '\\' :: 'u' :: '\x7b' :: (Nat.toDigits 16 c.toNat ++ '\x7d' :: rest) := by
    simp [codeEscape]
  rw [split, unquoteChar?, List.takeWhile_append_of_pos inside]
  simp [digitsValue_toDigits_sixteen, scalar?_toNat]

theorem unquoteChar?_cons {c : Char} (noQuote : c ≠ '"') (noBackslash : c ≠ '\\')
    (rest : List Char) : unquoteChar? (c :: rest) = some (c, rest) := by
  rw [unquoteChar?]
  · exact fun _ same => absurd same noBackslash
  · exact fun _ _ same => absurd same noBackslash
  · exact noQuote

theorem lookup_escapeLetters {letter c : Char} (known : (letter, c) ∈ escapeLetters) :
    escapeLetters.lookup letter = some c ∧ letter ≠ 'u' ∧ letter ≠ '\n' := by
  have all : ∀ entry ∈ escapeLetters,
      escapeLetters.lookup entry.1 = some entry.2 ∧ entry.1 ≠ 'u' ∧ entry.1 ≠ '\n' := by
    decide
  exact all _ known

theorem unquoteChar?_letter {letter c : Char} (known : (letter, c) ∈ escapeLetters)
    (rest : List Char) : unquoteChar? ('\\' :: letter :: rest) = some (c, rest) := by
  obtain ⟨found, noCode, -⟩ := lookup_escapeLetters known
  rw [unquoteChar?, found]
  · rfl
  · exact fun _ same => absurd same noCode

theorem QuotedAs.unquoteChar?_append {c : Char} {text : List Char} (quoted : QuotedAs c text)
    (rest : List Char) : unquoteChar? (text ++ rest) = some (c, rest) := by
  cases quoted with
  | letter known => exact unquoteChar?_letter known rest
  | bare noQuote noBackslash _ => exact unquoteChar?_cons noQuote noBackslash rest
  | code => exact unquoteChar?_codeEscape c rest

theorem QuotedAs.lineFeed_not_mem {c : Char} {text : List Char} (quoted : QuotedAs c text) :
    '\n' ∉ text := by
  cases quoted with
  | letter known =>
    obtain ⟨-, -, noFeed⟩ := lookup_escapeLetters known
    simpa using noFeed.symm
  | bare _ _ noFeed => simpa using noFeed.symm
  | code =>
    have digits : '\n' ∉ Nat.toDigits 16 c.toNat :=
      not_mem_toDigits fun _ => Nat.digitChar_ne _ (by decide)
    simp [codeEscape, digits]

/-! ## Texts -/

/-- What stands between the first quote and the next one that is not escaped tells the text. -/
theorem flatMap_quoteChar_cancel {text text' rest rest' : List Char}
    (h : text.flatMap quoteChar ++ '"' :: rest = text'.flatMap quoteChar ++ '"' :: rest') :
    text = text' := by
  have read (c : Char) (rest : List Char) := (quotedAs_quoteChar c).unquoteChar?_append rest
  -- The reader takes the same character off both sides, and none where a quote closes a text.
  induction text generalizing text' with
  | nil =>
    cases text' with
    | nil => rfl
    | cons c' tail' =>
      have first := read c' (tail'.flatMap quoteChar ++ '"' :: rest')
      rw [← List.append_assoc, ← List.flatMap_cons, ← h] at first
      cases first
  | cons c tail ih =>
    have first := read c (tail.flatMap quoteChar ++ '"' :: rest)
    rw [← List.append_assoc, ← List.flatMap_cons, h] at first
    cases text' with
    | nil => cases first
    | cons c' tail' =>
      rw [List.flatMap_cons, List.append_assoc, read c'] at first
      obtain ⟨rfl, same⟩ := Prod.mk.inj (Option.some.inj first)
      rw [ih same.symm]

/-- Texts that are quoted alike are equal. -/
theorem quote_injective : Function.Injective quote := by
  intro text text' same
  have between := (List.cons.inj (String.ofList_inj.mp same)).2
  exact String.toList_inj.mp (flatMap_quoteChar_cancel between)

theorem head?_quote (text : String) : (quote text).toList.head? = some '"' := by
  rw [quote, String.toList_ofList]
  rfl

/-- A quoted text stands on one line. -/
theorem lineFeed_not_mem_quote (text : String) : '\n' ∉ (quote text).toList := by
  have inside : '\n' ∉ text.toList.flatMap quoteChar := by
    intro mem
    obtain ⟨c, -, written⟩ := List.mem_flatMap.mp mem
    exact (quotedAs_quoteChar c).lineFeed_not_mem written
  simp [quote, inside]

end DiagnosticRelay.Text
