import DiagnosticRelay.Toml.Document

/-!
# Written lines

A line of a TOML document holds a header, a key with its value, or blanks alone. The relations here
say what may be written, without mention of how it is read: names that need no quotes; truth values,
strings on one line without escapes, and arrays of these; blanks between the parts of a line, and
line breaks of either kind, also inside arrays. The main statement is that `Statement.ofLines?`
reads back the statements of every document that is written in this way.
-/

namespace DiagnosticRelay.Toml

/-! ## What may be written -/

/-- Blanks, perhaps none. -/
def IsBlanks (cs : List Char) : Prop :=
  ∀ c ∈ cs, isBlank c = true

instance (cs : List Char) : Decidable (IsBlanks cs) :=
  List.decidableBAll _ cs

/-- A line break. -/
inductive IsBreak : List Char → Prop where
  | lineFeed : IsBreak ['\n']
  | carriageReturn : IsBreak ['\r', '\n']

/-- What may stand around the items of an array: blanks and line breaks. -/
inductive IsGap : List Char → Prop where
  | nil : IsGap []
  | blank {c : Char} {gap : List Char} (head : isBlank c = true) (tail : IsGap gap) :
      IsGap (c :: gap)
  | lineBreak {ending gap : List Char} (head : IsBreak ending) (tail : IsGap gap) :
      IsGap (ending ++ gap)

/-- A text of at least one character that consists of certain characters. -/
def IsRun (allowed : Char → Bool) (cs : List Char) : Prop :=
  cs ≠ [] ∧ ∀ c ∈ cs, allowed c = true

instance (allowed : Char → Bool) (cs : List Char) : Decidable (IsRun allowed cs) :=
  @instDecidableAnd _ _ _ (List.decidableBAll _ cs)

/-- A name that needs no quotes. -/
abbrev IsBareName (name : List Char) : Prop :=
  IsRun isBareChar name

/-- The ways to write a value that holds no others: a truth value, or the characters of a string as
they stand, between quotes of either kind. Without characters there would be two quotes in a row,
which may begin a string over several lines. -/
inductive ScalarWrittenAs : Toml → List Char → Prop where
  | true : ScalarWrittenAs (.boolean true) ['t', 'r', 'u', 'e']
  | false : ScalarWrittenAs (.boolean false) ['f', 'a', 'l', 's', 'e']
  | basic {cs : List Char} (plain : IsRun isBasicChar cs) :
      ScalarWrittenAs (.string (.ofList cs)) ('"' :: (cs ++ ['"']))
  | literal {cs : List Char} (plain : IsRun isLiteralChar cs) :
      ScalarWrittenAs (.string (.ofList cs)) ('\x27' :: (cs ++ ['\x27']))

/-- The ways to write the items of an array and its closing bracket. A comma may stand in front of
the bracket. -/
inductive ItemsWrittenAs : List Toml → List Char → Prop where
  | close {gap : List Char} (before : IsGap gap) : ItemsWrittenAs [] (gap ++ [']'])
  | last {item : Toml} {gap text gap' : List Char} (before : IsGap gap)
      (written : ScalarWrittenAs item text) (after : IsGap gap') :
      ItemsWrittenAs [item] (gap ++ text ++ gap' ++ [']'])
  | cons {item : Toml} {items : List Toml} {gap text gap' texts : List Char} (before : IsGap gap)
      (written : ScalarWrittenAs item text) (after : IsGap gap')
      (tail : ItemsWrittenAs items texts) :
      ItemsWrittenAs (item :: items) (gap ++ text ++ gap' ++ ',' :: texts)

/-- The ways to write a value. -/
inductive WrittenAs : Toml → List Char → Prop where
  | scalar {value : Toml} {text : List Char} (written : ScalarWrittenAs value text) :
      WrittenAs value text
  | array {items : List Toml} {text : List Char} (written : ItemsWrittenAs items text) :
      WrittenAs (.array items) ('[' :: text)

namespace Statement

/-- The ways to write a header or a key with its value. -/
inductive WrittenAs : Statement → List Char → Prop where
  | table {name before after : List Char} (bare : IsBareName name) (blanks : IsBlanks before)
      (blanks' : IsBlanks after) :
      WrittenAs (.table ⟨[], .ofList name⟩) ('[' :: (before ++ name ++ after ++ [']']))
  | assign {name before after text : List Char} {value : Toml} (bare : IsBareName name)
      (blanks : IsBlanks before) (blanks' : IsBlanks after) (written : value.WrittenAs text) :
      WrittenAs (.assign ⟨[], .ofList name⟩ value) (name ++ before ++ '=' :: (after ++ text))

/-- The ways to write statements, one on a line, with blank lines anywhere. The last line needs no
line break. -/
inductive AllWrittenAs : List Statement → List Char → Prop where
  | nil {blanks : List Char} (before : IsBlanks blanks) : AllWrittenAs [] blanks
  | blank {statements : List Statement} {blanks ending texts : List Char}
      (before : IsBlanks blanks) (lineBreak : IsBreak ending)
      (tail : AllWrittenAs statements texts) : AllWrittenAs statements (blanks ++ ending ++ texts)
  | last {statement : Statement} {blanks text blanks' : List Char} (before : IsBlanks blanks)
      (written : statement.WrittenAs text) (after : IsBlanks blanks') :
      AllWrittenAs [statement] (blanks ++ text ++ blanks')
  | cons {statement : Statement} {statements : List Statement}
      {blanks text blanks' ending texts : List Char} (before : IsBlanks blanks)
      (written : statement.WrittenAs text) (after : IsBlanks blanks') (lineBreak : IsBreak ending)
      (tail : AllWrittenAs statements texts) :
      AllWrittenAs (statement :: statements) (blanks ++ text ++ blanks' ++ ending ++ texts)

end Statement

/-! ## Blanks and names -/

theorem isBlanks_nil : IsBlanks [] := by decide

theorem isBlanks_space : IsBlanks [' '] := by decide

theorem isGap_space : IsGap [' '] :=
  .blank rfl .nil

theorem skipBlanks_append {blanks : List Char} (h : IsBlanks blanks) (rest : List Char) :
    skipBlanks (blanks ++ rest) = skipBlanks rest :=
  List.dropWhile_append_of_pos h

theorem skipBlanks_cons {c : Char} (h : isBlank c = false) (rest : List Char) :
    skipBlanks (c :: rest) = c :: rest :=
  List.dropWhile_cons_of_neg (by simp [h])

theorem skipBlanks_self {blanks : List Char} (h : IsBlanks blanks) : skipBlanks blanks = [] := by
  rw [← List.append_nil blanks, skipBlanks_append h]
  rfl

theorem isBlank_iff {c : Char} : isBlank c = true ↔ c = ' ' ∨ c = '\t' := by
  simp [isBlank]

theorem isBareChar_of_isBlank {c : Char} (h : isBlank c = true) : isBareChar c = false := by
  rcases isBlank_iff.mp h with rfl | rfl <;> decide

theorem isBlank_of_isBareChar {c : Char} (h : isBareChar c = true) : isBlank c = false := by
  refine Bool.eq_false_iff.mpr fun blank => ?_
  rw [isBareChar_of_isBlank blank] at h
  cases h

/-- A name ends at a blank or at a sign. -/
theorem keyPart?_bare {name after : List Char} {sign : Char} (bare : IsBareName name)
    (blanks : IsBlanks after) (ends : isBareChar sign = false) (rest : List Char) :
    keyPart? (name ++ (after ++ sign :: rest)) = some (name, after ++ sign :: rest) := by
  obtain ⟨nonempty, allBare⟩ := bare
  obtain ⟨c, name, rfl⟩ := List.exists_cons_of_ne_nil nonempty
  obtain ⟨first, others⟩ := List.forall_mem_cons.mp allBare
  obtain ⟨next, tail, same, stops⟩ :
      ∃ next tail, after ++ sign :: rest = next :: tail ∧ isBareChar next = false := by
    cases after with
    | nil => exact ⟨sign, rest, rfl, ends⟩
    | cons blank after =>
        exact ⟨blank, _, rfl, isBareChar_of_isBlank (blanks blank List.mem_cons_self)⟩
  have stops' : ¬isBareChar next = true := by simp [stops]
  rw [same, List.cons_append, keyPart?, if_pos first, List.takeWhile_append_of_pos others,
    List.dropWhile_append_of_pos others, List.takeWhile_cons_of_neg stops',
    List.dropWhile_cons_of_neg stops', List.append_nil]

/-- A key of one part is read up to the sign behind it. -/
theorem key?_bare {name before after : List Char} {sign : Char} (bare : IsBareName name)
    (blanks : IsBlanks before) (blanks' : IsBlanks after) (isSign : sign = '=' ∨ sign = ']')
    (rest : List Char) :
    key? (before ++ (name ++ (after ++ sign :: rest))) =
      some (⟨[], .ofList name⟩, sign :: rest) := by
  obtain ⟨ends, notBlank, notPoint⟩ :
      isBareChar sign = false ∧ isBlank sign = false ∧ sign ≠ '.' := by
    rcases isSign with rfl | rfl <;> decide
  have start : skipBlanks (before ++ (name ++ (after ++ sign :: rest))) =
      name ++ (after ++ sign :: rest) := by
    rw [skipBlanks_append blanks]
    obtain ⟨c, name, rfl⟩ := List.exists_cons_of_ne_nil bare.1
    exact skipBlanks_cons (isBlank_of_isBareChar (bare.2 c List.mem_cons_self)) _
  have parts : keyParts? (depthLimit - 1) (before ++ (name ++ (after ++ sign :: rest))) =
      some ([.ofList name], sign :: rest) := by
    change keyParts? (78 + 1) _ = _
    rw [keyParts?, start, keyPart?_bare bare blanks' ends]
    simp only [skipBlanks_append blanks', skipBlanks_cons notBlank]
    split
    · simp_all
    · rfl
  rw [key?, parts]
  rfl

theorem IsBreak.length_pos {ending : List Char} (h : IsBreak ending) : 0 < ending.length := by
  cases h <;> decide

theorem skipLines_gap {gap : List Char} (h : IsGap gap) (rest : List Char) :
    skipLines false (gap ++ rest) = skipLines false rest := by
  induction h with
  | nil => rfl
  | @blank c gap head tail ih =>
      rcases isBlank_iff.mp head with rfl | rfl
      · exact ih
      · exact ih
  | lineBreak head tail ih =>
      cases head with
      | lineFeed => exact ih
      | carriageReturn => exact ih

/-! ## Values -/

theorem basicContent_append {cs : List Char} (plain : ∀ c ∈ cs, isBasicChar c = true)
    (rest : List Char) : basicContent none (cs ++ '"' :: rest) = some (cs, rest) := by
  induction cs with
  | nil => rfl
  | cons c cs ih =>
      obtain ⟨first, others⟩ := List.forall_mem_cons.mp plain
      rw [List.cons_append, basicContent, if_pos first, ih others]
      · rfl
      · rintro rfl
        exact absurd first (by decide)
      · rintro rfl
        exact absurd first (by decide)

theorem literalContent_append {cs : List Char} (plain : ∀ c ∈ cs, isLiteralChar c = true)
    (rest : List Char) : literalContent (cs ++ '\x27' :: rest) = some (cs, rest) := by
  induction cs with
  | nil => rfl
  | cons c cs ih =>
      obtain ⟨first, others⟩ := List.forall_mem_cons.mp plain
      rw [List.cons_append, literalContent, if_pos first, ih others]
      · rfl
      · rintro rfl
        exact absurd first (by decide)

theorem string?_basic {cs : List Char} (plain : IsRun isBasicChar cs) (rest : List Char) :
    string? ('"' :: (cs ++ '"' :: rest)) = some (cs, rest) := by
  obtain ⟨c, cs, rfl⟩ := List.exists_cons_of_ne_nil plain.1
  rw [string?, lineString?, basicContent_append plain.2]
  · intro after same
    obtain rfl : c = '"' := by injection same with head tail; injection tail
    exact absurd (plain.2 '"' List.mem_cons_self) (by decide)
  · rintro _ ⟨⟩

theorem string?_literal {cs : List Char} (plain : IsRun isLiteralChar cs) (rest : List Char) :
    string? ('\x27' :: (cs ++ '\x27' :: rest)) = some (cs, rest) := by
  obtain ⟨c, cs, rfl⟩ := List.exists_cons_of_ne_nil plain.1
  rw [string?, lineString?, literalContent_append plain.2]
  · rintro _ ⟨⟩
  · intro after same
    obtain rfl : c = '\x27' := by injection same with head tail; injection tail
    exact absurd (plain.2 '\x27' List.mem_cons_self) (by decide)

theorem scalar?_of_string? {quote : Char} {cs text rest : List Char} (notTrue : quote ≠ 't')
    (notFalse : quote ≠ 'f') (string : string? (quote :: cs) = some (text, rest)) :
    scalar? (quote :: cs) = some (.string (.ofList text), rest) := by
  rw [scalar?, string]
  · rintro _ ⟨⟩
    exact notTrue rfl
  · rintro _ ⟨⟩
    exact notFalse rfl

/-- What is written is read, whatever follows. -/
theorem scalar?_append {value : Toml} {text : List Char} (written : ScalarWrittenAs value text)
    (rest : List Char) : scalar? (text ++ rest) = some (value, rest) := by
  cases written with
  | true => rfl
  | false => rfl
  | basic plain =>
      rw [List.cons_append, List.append_assoc]
      exact scalar?_of_string? (by decide) (by decide) (string?_basic plain rest)
  | literal plain =>
      rw [List.cons_append, List.append_assoc]
      exact scalar?_of_string? (by decide) (by decide) (string?_literal plain rest)

theorem value?_scalar {value : Toml} {text : List Char} (written : ScalarWrittenAs value text)
    (depth : Nat) (rest : List Char) : value? depth (text ++ rest) = some (value, rest) := by
  have scalar := scalar?_append written rest
  cases depth with
  | zero => exact scalar
  | succ depth =>
      -- No value of this kind begins with a bracket or a brace.
      have same : value? (depth + 1) (text ++ rest) = scalar? (text ++ rest) := by
        cases written <;> rfl
      rw [same, scalar]

section Items

variable {item : Toml} {items : List Toml} {text rest after final : List Char}
  {item? : ValueReader} {limit : Nat}

theorem skipLines_scalar (written : ScalarWrittenAs item text) (rest : List Char) :
    skipLines false (text ++ rest) = text ++ rest := by
  cases written <;> rfl

/-- An item in front of the closing bracket is the last one. -/
theorem items?_last (written : ScalarWrittenAs item text)
    (reads : item? (text ++ rest) = some (item, rest))
    (ends : skipLines false rest = ']' :: after) :
    items? item? (limit + 1) (text ++ rest) = some ([item], after) := by
  rw [items?, skipLines_scalar written]
  -- No item begins like the end of the array.
  cases written <;> simp_all

/-- After an item in front of a comma come the others. -/
theorem items?_cons (written : ScalarWrittenAs item text)
    (reads : item? (text ++ rest) = some (item, rest))
    (goesOn : skipLines false rest = ',' :: after)
    (others : items? item? limit after = some (items, final)) :
    items? item? (limit + 1) (text ++ rest) = some (item :: items, final) := by
  rw [items?, skipLines_scalar written]
  cases written <;> simp_all

end Items

theorem items?_gap {gap : List Char} (h : IsGap gap) (item? : ValueReader) (limit : Nat)
    (rest : List Char) : items? item? limit (gap ++ rest) = items? item? limit rest := by
  cases limit with
  | zero => rfl
  | succ limit => rw [items?, skipLines_gap h, items?]

theorem ItemsWrittenAs.length_le {items : List Toml} {text : List Char}
    (written : ItemsWrittenAs items text) : items.length ≤ text.length := by
  induction written with
  | close => exact Nat.zero_le _
  | last before written after =>
      simp only [List.length_cons, List.length_append]
      omega
  | cons before written after tail ih =>
      simp only [List.length_cons, List.length_append]
      omega

/-- The limit on the number of items does no harm if it is large enough. -/
theorem items?_append {items : List Toml} {text : List Char}
    (written : ItemsWrittenAs items text) (depth : Nat) {limit : Nat} (large : items.length < limit)
    (rest : List Char) : items? (value? depth) limit (text ++ rest) = some (items, rest) := by
  induction written generalizing limit with
  | close before =>
      obtain ⟨limit, rfl⟩ := Nat.exists_eq_add_one_of_ne_zero (Nat.ne_of_gt large)
      rw [List.append_assoc, items?_gap before]
      rfl
  | @last item gap text gap' before written after =>
      obtain ⟨limit, rfl⟩ := Nat.exists_eq_add_one_of_ne_zero (Nat.ne_zero_of_lt large)
      simp only [List.append_assoc]
      rw [items?_gap before]
      exact items?_last written (value?_scalar written depth _) (skipLines_gap after _)
  | @cons item items gap text gap' texts before written after tail ih =>
      obtain ⟨limit, rfl⟩ := Nat.exists_eq_add_one_of_ne_zero (Nat.ne_zero_of_lt large)
      have others := ih (Nat.lt_of_succ_lt_succ large)
      simp only [List.append_assoc]
      rw [items?_gap before]
      exact items?_cons written (value?_scalar written depth _) (skipLines_gap after _) others

/-- What is written is read, whatever follows. -/
theorem value?_append {value : Toml} {text : List Char} (written : value.WrittenAs text)
    (depth : Nat) (rest : List Char) : value? (depth + 1) (text ++ rest) = some (value, rest) := by
  cases written with
  | scalar written => exact value?_scalar written (depth + 1) rest
  | @array items text written =>
      have large : items.length < (text ++ rest).length + 1 := by
        have := written.length_le
        simp only [List.length_append]
        omega
      change (items? (value? depth) ((text ++ rest).length + 1) (text ++ rest)).map _ = _
      rw [items?_append written depth large]
      rfl

theorem skipBlanks_value {value : Toml} {text : List Char} (written : value.WrittenAs text)
    (rest : List Char) : skipBlanks (text ++ rest) = text ++ rest := by
  cases written with
  | scalar written => cases written <;> rfl
  | array written => rfl

/-! ## Lines -/

namespace Statement

theorem endLine?_break {blanks ending : List Char} (h : IsBlanks blanks)
    (lineBreak : IsBreak ending) (rest : List Char) :
    endLine? (blanks ++ (ending ++ rest)) = some rest := by
  rw [endLine?, skipBlanks_append h]
  cases lineBreak with
  | lineFeed => rfl
  | carriageReturn => rfl

theorem endLine?_blanks {blanks : List Char} (h : IsBlanks blanks) :
    endLine? blanks = some [] := by
  rw [endLine?, skipBlanks_self h]

/-- Nothing but blanks and a comment may stand at the end of a line. -/
theorem endLine?_eq_none {c : Char} {cs : List Char} (blank : isBlank c = false)
    (comment : c ≠ '#') (lineFeed : c ≠ '\n') (carriageReturn : c ≠ '\r') :
    endLine? (c :: cs) = none := by
  simp [endLine?, skipBlanks_cons blank, comment, lineFeed, carriageReturn]

/-- The name of a header does not begin like the header of an array of tables. -/
theorem exists_cons_of_isBareName {blanks name : List Char} (h : IsBlanks blanks)
    (bare : IsBareName name) (rest : List Char) :
    ∃ c cs, blanks ++ (name ++ rest) = c :: cs ∧ c ≠ '[' := by
  cases blanks with
  | nil =>
      obtain ⟨c, name, rfl⟩ := List.exists_cons_of_ne_nil bare.1
      refine ⟨c, _, rfl, ?_⟩
      rintro rfl
      exact absurd (bare.2 '[' List.mem_cons_self) (by decide)
  | cons c blanks =>
      refine ⟨c, _, rfl, ?_⟩
      rintro rfl
      exact absurd (h '[' List.mem_cons_self) (by decide)

theorem read?_table {before name after : List Char} (bare : IsBareName name)
    (blanks : IsBlanks before) (blanks' : IsBlanks after) (rest : List Char) :
    read? ('[' :: (before ++ (name ++ (after ++ ']' :: rest)))) =
      some (.table ⟨[], .ofList name⟩, rest) := by
  have key := key?_bare bare blanks blanks' (.inr rfl) rest
  obtain ⟨c, cs, same, other⟩ := exists_cons_of_isBareName blanks bare (after ++ ']' :: rest)
  rw [same] at key ⊢
  rw [read?, key]
  · rfl
  · rintro _ ⟨⟩
    exact other rfl

theorem read?_assign {name before after text : List Char} {value : Toml} (bare : IsBareName name)
    (blanks : IsBlanks before) (blanks' : IsBlanks after) (written : value.WrittenAs text)
    (rest : List Char) :
    read? (name ++ (before ++ '=' :: (after ++ (text ++ rest)))) =
      some (.assign ⟨[], .ofList name⟩ value, rest) := by
  have key := key?_bare bare isBlanks_nil blanks (.inl rfl) (after ++ (text ++ rest))
  have pair :
      pair? (value? (depthLimit - 1)) (name ++ (before ++ '=' :: (after ++ (text ++ rest)))) =
        some ((⟨[], .ofList name⟩, value), rest) := by
    rw [List.nil_append] at key
    rw [pair?, key]
    simp only [skipBlanks_append blanks', skipBlanks_value written]
    change (value? (78 + 1) (text ++ rest)).map _ = _
    rw [value?_append written]
    rfl
  obtain ⟨c, cs, same, other⟩ :=
    exists_cons_of_isBareName isBlanks_nil bare (before ++ '=' :: (after ++ (text ++ rest)))
  rw [List.nil_append] at same
  rw [same] at pair ⊢
  rw [read?, pair]
  · rfl
  · rintro _ ⟨⟩
    exact other rfl
  · rintro _ ⟨⟩
    exact other rfl

variable {statement : Statement} {statements : List Statement} {text : List Char}

/-- What is written is read, whatever follows. -/
theorem read?_append (written : statement.WrittenAs text) (rest : List Char) :
    read? (text ++ rest) = some (statement, rest) := by
  cases written with
  | table bare blanks blanks' => simpa using read?_table bare blanks blanks' rest
  | assign bare blanks blanks' written => simpa using read?_assign bare blanks blanks' written rest

/-- A statement begins with a bracket or with a name. -/
theorem WrittenAs.exists_cons (written : statement.WrittenAs text) :
    ∃ c cs, text = c :: cs ∧ (c = '[' ∨ isBareChar c = true) := by
  cases written with
  | table bare blanks blanks' => exact ⟨'[', _, rfl, .inl rfl⟩
  | assign bare blanks blanks' written =>
      obtain ⟨c, name, rfl⟩ := List.exists_cons_of_ne_nil bare.1
      exact ⟨c, _, rfl, .inr (bare.2 c List.mem_cons_self)⟩

theorem WrittenAs.length_pos (written : statement.WrittenAs text) : 0 < text.length := by
  obtain ⟨c, cs, rfl, -⟩ := written.exists_cons
  exact Nat.zero_lt_succ _

/-! ## Whole texts -/

variable {limit : Nat}

theorem ofLines?_blanks {blanks : List Char} (h : IsBlanks blanks) :
    ofLines? (limit + 1) blanks = some [] := by
  rw [ofLines?, skipBlanks_self h]

/-- A blank line says nothing. -/
theorem ofLines?_break {blanks ending : List Char} (h : IsBlanks blanks)
    (lineBreak : IsBreak ending) (rest : List Char) :
    ofLines? (limit + 1) (blanks ++ (ending ++ rest)) = ofLines? limit rest := by
  rw [ofLines?, skipBlanks_append h]
  cases lineBreak with
  | lineFeed => rfl
  | carriageReturn => rfl

/-- A line says what its statement says, and what follows the line is left. -/
theorem ofLines?_statement {blanks after rest : List Char} (h : IsBlanks blanks)
    (written : statement.WrittenAs text) (ends : endLine? after = some rest) :
    ofLines? (limit + 1) (blanks ++ (text ++ after)) =
      (ofLines? limit rest).map (statement :: ·) := by
  have read := read?_append written after
  obtain ⟨c, cs, rfl, begins⟩ := written.exists_cons
  obtain ⟨blank, noEnd⟩ : isBlank c = false ∧ endLine? (c :: (cs ++ after)) = none := by
    rcases begins with rfl | bare
    · exact ⟨rfl, rfl⟩
    · have blank := isBlank_of_isBareChar bare
      refine ⟨blank, endLine?_eq_none blank ?_ ?_ ?_⟩
      all_goals
        rintro rfl
        exact absurd bare (by decide)
  rw [List.cons_append] at read ⊢
  rw [ofLines?, skipBlanks_append h, skipBlanks_cons blank]
  simp only [noEnd, read, ends]

/-- Written statements are read back, if the limit on the number of lines is large enough. -/
theorem ofLines?_of_allWrittenAs (written : AllWrittenAs statements text)
    (large : text.length < limit) : ofLines? limit text = some statements := by
  induction written generalizing limit with
  | nil before =>
      obtain ⟨limit, rfl⟩ := Nat.exists_eq_add_one_of_ne_zero (Nat.ne_zero_of_lt large)
      exact ofLines?_blanks before
  | blank before lineBreak tail ih =>
      obtain ⟨limit, rfl⟩ := Nat.exists_eq_add_one_of_ne_zero (Nat.ne_zero_of_lt large)
      have shorter := lineBreak.length_pos
      simp only [List.length_append] at large
      rw [List.append_assoc, ofLines?_break before lineBreak, ih (by omega)]
  | last before written after =>
      have shorter := written.length_pos
      simp only [List.length_append] at large
      obtain ⟨limit, rfl⟩ := Nat.exists_eq_add_of_le (show 2 ≤ limit by omega)
      rw [Nat.add_comm, List.append_assoc,
        ofLines?_statement before written (endLine?_blanks after), ofLines?_blanks isBlanks_nil]
      rfl
  | cons before written after lineBreak tail ih =>
      obtain ⟨limit, rfl⟩ := Nat.exists_eq_add_one_of_ne_zero (Nat.ne_zero_of_lt large)
      have shorter := lineBreak.length_pos
      simp only [List.length_append] at large
      simp only [List.append_assoc]
      rw [ofLines?_statement before written (endLine?_break after lineBreak _), ih (by omega)]
      rfl

end Statement

end DiagnosticRelay.Toml
