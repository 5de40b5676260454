import DiagnosticRelay.Proofs.Json.Value
import DiagnosticRelay.Replay
import Mathlib.Data.List.Forall2

/-!
# Written replays

A replay can be written in many ways: the members of a record stand in any order, a member that says
nothing may be left out or be null, and every way to write JSON is allowed. `Writes` covers them all
and does not mention how a replay is read. The main statement is that `parse` gives back what was
recorded, whichever way was taken.
-/

namespace DiagnosticRelay

namespace Json

/-- The numeral of an integer. -/
def Numeral.ofInt (n : Int) : Numeral :=
  ⟨n < 0, n.natAbs, false⟩

/-- An integer as a value. -/
def ofInt (n : Int) : Json :=
  .number (.ofInt n)

theorem Numeral.toInt?_ofInt (n : Int) : (ofInt n).toInt? = some n := by
  by_cases negative : n < 0
  · have nonzero : n.natAbs ≠ 0 := by omega
    have sign : -(n.natAbs : Int) = n := by omega
    rw [toInt?, ofInt, if_neg Bool.false_ne_true, if_pos (decide_eq_true negative), if_neg nonzero,
      sign]
  · have sign : (n.natAbs : Int) = n := by omega
    rw [toInt?, ofInt, if_neg Bool.false_ne_true, if_neg (by simpa using negative), sign]

end Json

/-- The severity has the name, in which the case of ASCII letters does not matter. -/
def Severity.IsNamed (severity : Severity) (name : String) : Prop :=
  name.map Char.toLower = severity.tag ∨
    severity = .warning ∧ name.map Char.toLower = "warn"

theorem Severity.eq_tag_of_ofTag? {severity : Severity} {word : String}
    (h : ofTag? word = some severity) : word = severity.tag := by
  unfold ofTag? at h
  split at h
  · cases h
    assumption
  · split at h
    · cases h
      assumption
    · split at h
      · cases h
        assumption
      · cases h

theorem Severity.ofName_eq_ok_iff {severity : Severity} {name : String} :
    ofName name = .ok severity ↔ severity.IsNamed name := by
  constructor
  · intro h
    simp only [ofName] at h
    split at h
    · cases h
      exact .inr ⟨rfl, ‹_›⟩
    · split at h
      · rename_i found
        cases h
        exact .inl (eq_tag_of_ofTag? found)
      · cases h
  · rintro (tag | ⟨rfl, short⟩)
    · have long : severity.tag ≠ "warn" := by cases severity <;> decide
      simp only [ofName, tag, if_neg long, ofTag?_tag]
    · simp only [ofName, short, if_true]

namespace Replay

/-- The members of an object, each with its name. -/
abbrev Members := List (Option String × Json)

/-! ## What may be written -/

namespace Record

/-- The code of the record is a 32-bit number with a sign and its offset a 64-bit number without. -/
structure InRange (record : Record) : Prop where
  code : ∀ code, record.level = .code code → -2 ^ 31 ≤ code ∧ code < 2 ^ 31
  offset : ∀ offset, record.offset? = some offset → offset < 2 ^ 64

/-- Every name that stands for the level of the record is one of a severity. -/
def IsKnown (record : Record) : Prop :=
  ∀ name, record.level = .name name → ∃ severity : Severity, severity.IsNamed name

/-- The diagnostic is the one that was recorded. -/
structure IsRecordOf (record : Record) (source : Source) (diagnostic : Diagnostic) : Prop where
  code : ∀ code, record.level = .code code → diagnostic.code = code
  named : ∀ name, record.level = .name name →
    ∃ severity : Severity, severity.IsNamed name ∧ diagnostic.code = severity.code
  nowhere : record.offset? = none → diagnostic.location = .nowhere
  within : ∀ offset, record.offset? = some offset → diagnostic.location = .within source offset
  text : diagnostic.message.text = record.message
  explanation : diagnostic.message.explanation? = record.explanation?

end Record

/-- The value that a level is written as. -/
def Level.toJson : Level → Json
  | .code n => .ofInt n
  | .name text => .string (some text)

/-- The ways to write a member that need not say anything: one that says nothing is left out or
null. -/
inductive OptionalMember (name : String) : Option Json → Members → Prop where
  | leftOut : OptionalMember name none []
  | null : OptionalMember name none [(some name, .null)]
  | present {value : Json} : OptionalMember name (some value) [(some name, value)]

/-- The members of a record, given those that need not say anything. -/
def Record.fields (record : Record) (offset explanation : Members) : Members :=
  (some "level", record.level.toJson) :: (some "message", .string (some record.message)) ::
    (offset ++ explanation)

/-- The ways to write a record as an object, whose members stand in any order. -/
inductive Record.WrittenAs (record : Record) : Json → Prop where
  | intro {offset explanation members : Members}
      (offsetWritten : OptionalMember "offset" (record.offset?.map fun n : Nat => .ofInt n) offset)
      (explanationWritten :
        OptionalMember "explanation" (record.explanation?.map (.string <| some ·)) explanation)
      (anyOrder : members.Perm (record.fields offset explanation)) :
      record.WrittenAs (.object members)

/-- The text writes the records as an array of objects. -/
def Writes (records : List Record) (text : String) : Prop :=
  ∃ items, List.Forall₂ Record.WrittenAs records items ∧ (Json.array items).WrittenAs text.toList

theorem exists_optionalMember (name : String) (value? : Option Json) :
    ∃ members, OptionalMember name value? members := by
  cases value? with
  | none => exact ⟨[], .leftOut⟩
  | some value => exact ⟨_, .present⟩

theorem Record.exists_writtenAs (record : Record) : ∃ json, record.WrittenAs json := by
  obtain ⟨offset, offsetWritten⟩ :=
    exists_optionalMember "offset" (record.offset?.map fun n : Nat => .ofInt n)
  obtain ⟨explanation, explanationWritten⟩ :=
    exists_optionalMember "explanation" (record.explanation?.map (.string <| some ·))
  exact ⟨_, .intro offsetWritten explanationWritten (.refl _)⟩

/-- All records can be written. -/
theorem exists_writes (records : List Record) : ∃ text, Writes records text := by
  have items : ∃ items, List.Forall₂ Record.WrittenAs records items := by
    induction records with
    | nil => exact ⟨[], .nil⟩
    | cons record rest ih =>
      obtain ⟨json, written⟩ := record.exists_writtenAs
      obtain ⟨items, restWritten⟩ := ih
      exact ⟨json :: items, .cons written restWritten⟩
  obtain ⟨items, itemsWritten⟩ := items
  obtain ⟨chars, written⟩ := (Json.array items).exists_writtenAs
  refine ⟨String.ofList chars, items, itemsWritten, ?_⟩
  rw [String.toList_ofList]
  exact written

/-! ## Finding the members -/

section Members

open Record

variable {name other : String} {value? : Option Json} {members fields : Members}

/-- The order of members does not matter to one that stands there at most once. -/
theorem member?_of_perm {found : Option Json} (perm : members.Perm fields)
    (h : member? name fields = some found) : member? name members = some found := by
  have filtered := perm.filter (·.1 == some name)
  unfold member? at h ⊢
  split at h
  · rename_i empty
    rw [empty] at filtered
    rw [filtered.eq_nil]
    exact h
  · rename_i single
    rw [single] at filtered
    rw [List.perm_singleton.1 filtered]
    exact h
  · cases h

namespace OptionalMember

theorem filter_self (written : OptionalMember name value? fields) :
    fields.filter (·.1 == some name) = fields := by
  cases written <;> simp

theorem filter_other (written : OptionalMember name value? fields) (ne : name ≠ other) :
    fields.filter (·.1 == some other) = [] := by
  cases written <;> simp [ne]

theorem isSome_of_mem (written : OptionalMember name value? fields)
    {member : Option String × Json} (mem : member ∈ fields) : member.1.isSome = true := by
  cases written <;> simp_all

/-- A member that says nothing is found as null or not at all, which amounts to the same. -/
theorem member?_eq (written : OptionalMember name value? fields)
    (only : members.filter (·.1 == some name) = fields) :
    ∃ found, member? name members = some found ∧ found.getD .null = value?.getD .null := by
  unfold member?
  rw [only]
  cases written with
  | leftOut => exact ⟨none, rfl, rfl⟩
  | null => exact ⟨some .null, rfl, rfl⟩
  | @present value => exact ⟨some value, rfl, rfl⟩

end OptionalMember

end Members

/-! ## Reading a record -/

namespace Record

variable {record : Record} {members : Members}

theorem levelOf?_toJson (inRange : record.InRange) :
    levelOf? record.level.toJson = some record.level := by
  cases h : record.level with
  | code code =>
    have isCode : IsCode code := inRange.code code h
    rw [Level.toJson, Json.ofInt, levelOf?, Json.Numeral.toInt?_ofInt, Option.bind_some,
      if_pos isCode]
  | name name => rfl

theorem offsetOf?_written (inRange : record.InRange) :
    offsetOf? ((record.offset?.map fun n : Nat => Json.ofInt n).getD .null) =
      some record.offset? := by
  cases h : record.offset? with
  | none => rfl
  | some offset =>
    have bound := inRange.offset offset h
    have isOffset : IsOffset offset := ⟨Int.natCast_nonneg offset, by omega⟩
    rw [Option.map_some, Option.getD_some, Json.ofInt, offsetOf?, Json.Numeral.toInt?_ofInt,
      Option.bind_some, if_pos isOffset, Int.toNat_natCast]

theorem explanationOf?_written :
    explanationOf? ((record.explanation?.map (Json.string <| some ·)).getD .null) =
      some record.explanation? := by
  cases record.explanation? <;> rfl

theorem ofFields?_of_fields {level message : Json} {offset explanation : Option Json}
    (levelOf : levelOf? level = some record.level)
    (offsetOf : offsetOf? (offset.getD .null) = some record.offset?)
    (messageOf : textOf? message = some record.message)
    (explanationOf : explanationOf? (explanation.getD .null) = some record.explanation?) :
    ofFields? level message offset explanation = some record := by
  simp [ofFields?, levelOf, offsetOf, messageOf, explanationOf]

/-- An object is read by its four members. -/
theorem ofJson?_object {level message : Json} {offset explanation : Option Json}
    (named : members.all (·.1.isSome) = true)
    (levelFound : member? "level" members = some (some level))
    (offsetFound : member? "offset" members = some offset)
    (messageFound : member? "message" members = some (some message))
    (explanationFound : member? "explanation" members = some explanation) :
    ofJson? (.object members) = ofFields? level message offset explanation := by
  simp [ofJson?, named, levelFound, offsetFound, messageFound, explanationFound]

/-- However a record is written, it is read as the record. -/
theorem ofJson?_of_writtenAs {json : Json} (inRange : record.InRange)
    (written : record.WrittenAs json) : ofJson? json = some record := by
  cases written with
  | @intro offset explanation members offsetWritten explanationWritten anyOrder =>
    have named : members.all (·.1.isSome) = true := by
      rw [anyOrder.all_eq]
      simp only [fields, List.all_cons, List.all_append, Option.isSome_some, Bool.true_and,
        Bool.and_eq_true, List.all_eq_true]
      exact ⟨fun _ => offsetWritten.isSome_of_mem, fun _ => explanationWritten.isSome_of_mem⟩
    have levelFound : member? "level" members = some (some record.level.toJson) := by
      apply member?_of_perm anyOrder
      simp [member?, fields, offsetWritten.filter_other, explanationWritten.filter_other]
    have messageFound :
        member? "message" members = some (some (.string (some record.message))) := by
      apply member?_of_perm anyOrder
      simp [member?, fields, offsetWritten.filter_other, explanationWritten.filter_other]
    -- The members of other names do not hide one that may be left out.
    have offsetOnly :
        (record.fields offset explanation).filter (·.1 == some "offset") = offset := by
      simp [fields, offsetWritten.filter_self, explanationWritten.filter_other]
    have explanationOnly :
        (record.fields offset explanation).filter (·.1 == some "explanation") = explanation := by
      simp [fields, offsetWritten.filter_other, explanationWritten.filter_self]
    obtain ⟨offsetValue, offsetFound, offset_eq⟩ := offsetWritten.member?_eq offsetOnly
    obtain ⟨explanationValue, explanationFound, explanation_eq⟩ :=
      explanationWritten.member?_eq explanationOnly
    rw [ofJson?_object named levelFound (member?_of_perm anyOrder offsetFound) messageFound
      (member?_of_perm anyOrder explanationFound)]
    apply ofFields?_of_fields
    · exact levelOf?_toJson inRange
    · rw [offset_eq]
      exact offsetOf?_written inRange
    · rfl
    · rw [explanation_eq]
      exact explanationOf?_written

theorem code_of_isKnown (known : record.IsKnown) :
    ∃ code, record.code = .ok code ∧ (∀ n, record.level = .code n → code = n) ∧
      ∀ name, record.level = .name name →
        ∃ severity : Severity, severity.IsNamed name ∧ code = severity.code := by
  cases h : record.level with
  | code n =>
    refine ⟨n, by simp only [code, h], ?_, ?_⟩
    · rintro _ ⟨⟩
      rfl
    · rintro _ ⟨⟩
  | name text =>
    obtain ⟨severity, named⟩ := known text h
    refine ⟨severity.code, ?_, ?_, ?_⟩
    · simp only [code, h, Severity.ofName_eq_ok_iff.2 named]
      rfl
    · rintro _ ⟨⟩
    · rintro _ ⟨⟩
      exact ⟨severity, named, rfl⟩

theorem diagnostic_of_isKnown (source : Source) (known : record.IsKnown) :
    ∃ diagnostic, record.diagnostic source = .ok diagnostic ∧
      record.IsRecordOf source diagnostic := by
  obtain ⟨code, read, raw, named⟩ := code_of_isKnown known
  refine ⟨_, by rw [diagnostic, read]; rfl, ⟨raw, named, ?_, ?_, rfl, rfl⟩⟩
  · intro absent
    simp only [absent]
  · intro offset present
    simp only [present]

end Record

/-! ## Reading a replay -/

variable {records : List Record} {text : String}

theorem mapM_ofJson?_of_writtenAs {items : List Json}
    (inRange : ∀ record ∈ records, record.InRange)
    (written : List.Forall₂ Record.WrittenAs records items) :
    items.mapM Record.ofJson? = some records := by
  induction written with
  | nil => rfl
  | cons head tail ih =>
    obtain ⟨first, others⟩ := List.forall_mem_cons.1 inRange
    simp [List.mapM_cons, Record.ofJson?_of_writtenAs first head, ih others]

theorem records?_of_writes (inRange : ∀ record ∈ records, record.InRange)
    (written : Writes records text) : records? text = some records := by
  obtain ⟨items, itemsWritten, textWritten⟩ := written
  rw [records?, Json.parse?_of_writtenAs textWritten]
  exact mapM_ofJson?_of_writtenAs inRange itemsWritten

/-- Records of known names are all resolved, whatever number the first one has. -/
theorem resolve_of_isKnown (source : Source) (number : Nat)
    (known : ∀ record ∈ records, record.IsKnown) :
    ∃ diagnostics, resolve source number records = .ok diagnostics ∧
      List.Forall₂ (fun record => record.IsRecordOf source) records diagnostics := by
  induction records generalizing number with
  | nil => exact ⟨[], rfl, .nil⟩
  | cons record rest ih =>
    obtain ⟨first, others⟩ := List.forall_mem_cons.1 known
    obtain ⟨diagnostic, resolved, recorded⟩ := record.diagnostic_of_isKnown source first
    obtain ⟨diagnostics, restResolved, restRecorded⟩ := ih (number + 1) others
    refine ⟨diagnostic :: diagnostics, ?_, .cons recorded restRecorded⟩
    rw [resolve, resolved, restResolved]
    rfl

/-- However records are written, exactly they are read. If every name among their levels is known,
the diagnostics that were recorded come back, in order. -/
theorem parse_of_writes (source : Source) (inRange : ∀ record ∈ records, record.InRange)
    (written : Writes records text) :
    records? text = some records ∧
      ((∀ record ∈ records, record.IsKnown) →
        ∃ diagnostics, parse source text = .ok diagnostics ∧
          List.Forall₂ (fun record => record.IsRecordOf source) records diagnostics) := by
  have read := records?_of_writes inRange written
  refine ⟨read, fun known => ?_⟩
  rw [parse, read]
  exact resolve_of_isKnown source 1 known

section Sample

open Json Json.Token Json.StringPiece

/-- Two records, one with a name and one with a code. -/
def sampleRecords : List Record :=
  [⟨.name "Warn", none, "é😀\n", none⟩, ⟨.code (-1), some 15, "m", none⟩]

/-- The two records with members in another order, blanks, a null and escapes of every kind. -/
def sampleText : String :=
  "[ \x7b\"message\":\"\\u00E9\\ud83D\\uDe00\\n\",\n\"offset\":null, \"level\":\"Warn\"\x7d,
\x7b\"level\":-1,\"message\":\"m\",\"offset\":15\x7d]"

theorem writes_sample : Writes sampleRecords sampleText := by
  have acute : StringPiece.WrittenAs (.unit 0xE9) ['\\', 'u', '0', '0', 'E', '9'] :=
    .unit (by decide) (by decide) (by decide) (by decide)
  have high : StringPiece.WrittenAs (.unit 0xD83D) ['\\', 'u', 'd', '8', '3', 'D'] :=
    .unit (by decide) (by decide) (by decide) (by decide)
  have low : StringPiece.WrittenAs (.unit 0xDE00) ['\\', 'u', 'D', 'e', '0', '0'] :=
    .unit (by decide) (by decide) (by decide) (by decide)
  have feed : StringPiece.WrittenAs (.char '\n') ['\\', 'n'] := .short (by decide)
  have escaped : Token.WrittenAs (.string (some "é😀\n")) _ :=
    string_of_join (.cons acute (.cons high (.cons low (.cons feed .nil)))) rfl
  have message := string_of_plain (show IsPlain ['m', 'e', 's', 's', 'a', 'g', 'e'] by decide)
  have offset := string_of_plain (show IsPlain ['o', 'f', 'f', 's', 'e', 't'] by decide)
  have level := string_of_plain (show IsPlain ['l', 'e', 'v', 'e', 'l'] by decide)
  have warn := string_of_plain (show IsPlain ['W', 'a', 'r', 'n'] by decide)
  have short := string_of_plain (show IsPlain ['m'] by decide)
  have code : Token.WrittenAs (.number (.ofInt (-1))) ['-', '1'] :=
    .number (.negative (.intro .missing .missing))
  have place : Token.WrittenAs (.number (.ofInt 15)) ['1', '5'] :=
    .number (.positive (.intro .missing .missing))
  have first : Record.WrittenAs ⟨.name "Warn", none, "é😀\n", none⟩
      (.object [(some "message", .string (some "é😀\n")), (some "offset", .null),
        (some "level", .string (some "Warn"))]) :=
    .intro .null .leftOut (show ([_, _] ++ [_]).Perm ([_] ++ [_, _]) from List.perm_append_comm)
  have second : Record.WrittenAs ⟨.code (-1), some 15, "m", none⟩
      (.object [(some "level", .ofInt (-1)), (some "message", .string (some "m")),
        (some "offset", .ofInt 15)]) :=
    .intro .present .leftOut (.refl _)
  refine ⟨_, .cons first (.cons second .nil), ?_⟩
  have space : IsBlank [' '] := by decide
  have lineFeed : IsBlank ['\n'] := by decide
  have written :=
    AllWrittenAs.cons isBlank_nil .openArray <|
    .cons space .openObject <|
    .cons isBlank_nil message <| .cons isBlank_nil .colon <| .cons isBlank_nil escaped <|
    .cons isBlank_nil .comma <|
    .cons lineFeed offset <| .cons isBlank_nil .colon <| .cons isBlank_nil .null <|
    .cons isBlank_nil .comma <|
    .cons space level <| .cons isBlank_nil .colon <| .cons isBlank_nil warn <|
    .cons isBlank_nil .closeObject <| .cons isBlank_nil .comma <|
    .cons lineFeed .openObject <|
    .cons isBlank_nil level <| .cons isBlank_nil .colon <| .cons isBlank_nil code <|
    .cons isBlank_nil .comma <|
    .cons isBlank_nil message <| .cons isBlank_nil .colon <| .cons isBlank_nil short <|
    .cons isBlank_nil .comma <|
    .cons isBlank_nil offset <| .cons isBlank_nil .colon <| .cons isBlank_nil place <|
    .cons isBlank_nil .closeObject <| .cons isBlank_nil .closeArray <| .nil isBlank_nil
  simpa [Json.WrittenAs, tokens, itemTokens, memberTokens, ofInt, sampleText] using written

theorem parse_of_writes_sample :
    ∃ diagnostics, parse .absent sampleText = .ok diagnostics ∧
      List.Forall₂ (fun record => record.IsRecordOf .absent) sampleRecords diagnostics := by
  have named : Severity.warning.IsNamed "Warn" := .inr ⟨rfl, String.toList_inj.1 (by simp)⟩
  have inRange : ∀ record ∈ sampleRecords, record.InRange := by
    refine List.forall_mem_cons.2 ⟨⟨?_, ?_⟩, List.forall_mem_singleton.2 ⟨?_, ?_⟩⟩
    · rintro _ ⟨⟩
    · rintro _ ⟨⟩
    · rintro _ ⟨⟩
      decide
    · rintro _ ⟨⟩
      decide
  have known : ∀ record ∈ sampleRecords, record.IsKnown := by
    refine List.forall_mem_cons.2 ⟨?_, List.forall_mem_singleton.2 ?_⟩
    · rintro _ ⟨⟩
      exact ⟨.warning, named⟩
    · rintro _ ⟨⟩
  exact (parse_of_writes .absent inRange writes_sample).2 known

end Sample

end Replay

end DiagnosticRelay
