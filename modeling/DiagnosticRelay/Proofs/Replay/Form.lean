import DiagnosticRelay.Proofs.Json.Accepted
import DiagnosticRelay.Proofs.Replay.Writing

/-!
# Forms of records

A record is read from an object or from an array, and both are read by the values of four fields.
`Record.HasForm` says which values are forms of a record, and `HoldsRecords` says which texts hold
which records. The main statement is that `records?` finds the records of a text that holds some and
nothing in any other text.
-/

namespace DiagnosticRelay

/-- Only the literal of an integer denotes it: without a fraction or an exponent, and without a
sign if it is zero. -/
theorem Json.Numeral.toInt?_eq_some_iff {numeral : Numeral} {n : Int} :
    numeral.toInt? = some n ↔ numeral = .ofInt n := by
  constructor
  · intro h
    obtain ⟨negative, magnitude, decimal⟩ := numeral
    cases decimal with
    | true => cases h
    | false =>
      cases negative with
      | false =>
        obtain rfl : (magnitude : Int) = n := Option.some.inj h
        simp [ofInt]
      | true =>
        by_cases zero : magnitude = 0
        · rw [toInt?, if_neg Bool.false_ne_true, if_pos rfl, if_pos zero] at h
          cases h
        · rw [toInt?, if_neg Bool.false_ne_true, if_pos rfl, if_neg zero] at h
          obtain rfl := Option.some.inj h
          simp [ofInt]
          omega
  · rintro rfl
    exact toInt?_ofInt n

namespace Replay

/-- The values of the members of a name, in order. -/
def valuesOf (name : String) (members : Members) : List Json :=
  (members.filter (·.1 == some name)).map (·.2)

namespace Record

variable {record : Record} {json level message : Json} {offset? explanation? : Option Json}
  {members : Members} {name : String}

/-! ## The values of a record -/

/-- A name has a value unless it is given more than once. -/
theorem member?_eq_some_iff {value? : Option Json} :
    member? name members = some value? ↔ valuesOf name members = value?.toList := by
  unfold member? valuesOf
  generalize members.filter (·.1 == some name) = found
  match found with
  | [] => cases value? <;> simp
  | [(_, value)] => cases value? <;> simp
  | _ :: _ :: _ => cases value? <;> simp

theorem textOf?_eq_some_iff {text : String} :
    textOf? json = some text ↔ json = .string (some text) := by
  cases json <;> simp [textOf?]

theorem toJson_of_levelOf? {level : Level} (h : levelOf? json = some level) :
    json = level.toJson ∧ ∀ code, level = .code code → -2 ^ 31 ≤ code ∧ code < 2 ^ 31 := by
  cases json with
  | number numeral =>
    obtain ⟨n, denoted, ranged⟩ := Option.bind_eq_some_iff.mp h
    split at ranged
    · rename_i isCode
      cases ranged
      rw [Json.Numeral.toInt?_eq_some_iff.mp denoted]
      refine ⟨rfl, ?_⟩
      rintro _ ⟨⟩
      exact isCode
    · cases ranged
  | string text? =>
    obtain ⟨text, rfl, rfl⟩ := Option.map_eq_some_iff.mp h
    exact ⟨rfl, fun _ other => nomatch other⟩
  | null | bool | array | object => cases h

theorem written_of_offsetOf? {offset? : Option Nat} (h : offsetOf? json = some offset?) :
    json = (offset?.map fun n : Nat => Json.ofInt n).getD .null ∧
      ∀ offset, offset? = some offset → offset < 2 ^ 64 := by
  cases json with
  | null =>
    cases h
    exact ⟨rfl, fun _ other => nomatch other⟩
  | number numeral =>
    obtain ⟨n, denoted, ranged⟩ := Option.bind_eq_some_iff.mp h
    split at ranged
    · rename_i isOffset
      obtain ⟨nonnegative, bound⟩ := isOffset
      cases ranged
      rw [Json.Numeral.toInt?_eq_some_iff.mp denoted]
      refine ⟨?_, ?_⟩
      · rw [Option.map_some, Option.getD_some, Int.toNat_of_nonneg nonnegative, Json.ofInt]
      · rintro _ ⟨⟩
        omega
    · cases ranged
  | bool | string | array | object => cases h

theorem written_of_explanationOf? {explanation? : Option String}
    (h : explanationOf? json = some explanation?) :
    json = (explanation?.map (Json.string <| some ·)).getD .null := by
  unfold explanationOf? at h
  split at h
  · cases h
    rfl
  · obtain ⟨text, found, rfl⟩ := Option.map_eq_some_iff.mp h
    exact textOf?_eq_some_iff.mp found

/-- The values of its fields make up the record. A value that is missing counts as null. -/
structure HasValues (record : Record) (level message : Json) (offset? explanation? : Option Json) :
    Prop where
  inRange : record.InRange
  level : level = record.level.toJson
  offset : offset?.getD .null = (record.offset?.map fun n : Nat => Json.ofInt n).getD .null
  message : message = .string (some record.message)
  explanation : explanation?.getD .null =
    (record.explanation?.map (Json.string <| some ·)).getD .null

theorem ofFields?_eq_some_iff :
    ofFields? level message offset? explanation? = some record ↔
      record.HasValues level message offset? explanation? := by
  constructor
  · intro h
    simp only [ofFields?, bind, pure, Option.bind_eq_some_iff, Option.some.injEq] at h
    obtain ⟨_, levelRead, _, offsetRead, _, messageRead, _, explanationRead, rfl⟩ := h
    obtain ⟨levelWritten, code⟩ := toJson_of_levelOf? levelRead
    obtain ⟨offsetWritten, bound⟩ := written_of_offsetOf? offsetRead
    exact ⟨⟨code, bound⟩, levelWritten, offsetWritten, textOf?_eq_some_iff.mp messageRead,
      written_of_explanationOf? explanationRead⟩
  · rintro ⟨inRange, rfl, offset, rfl, explanation⟩
    apply ofFields?_of_fields
    · exact levelOf?_toJson inRange
    · rw [offset]
      exact offsetOf?_written inRange
    · rfl
    · rw [explanation]
      exact explanationOf?_written

/-! ## The forms of a record -/

/-- The members give the values of the fields, each at most once, and every name has a text. -/
structure GivesFields (members : Members) (level message : Json)
    (offset? explanation? : Option Json) : Prop where
  named : ∀ member ∈ members, member.1.isSome = true
  level : valuesOf "level" members = [level]
  offset : valuesOf "offset" members = offset?.toList
  message : valuesOf "message" members = [message]
  explanation : valuesOf "explanation" members = explanation?.toList

/-- The values that are read as the record: an object that gives the fields, or an array of the
values in the order of the fields. -/
inductive HasForm (record : Record) : Json → Prop where
  | object {level message : Json} {offset? explanation? : Option Json} {members : Members}
      (gives : GivesFields members level message offset? explanation?)
      (values : record.HasValues level message offset? explanation?) :
      HasForm record (.object members)
  | three {level offset message : Json}
      (values : record.HasValues level message (some offset) none) :
      HasForm record (.array [level, offset, message])
  | four {level offset message explanation : Json}
      (values : record.HasValues level message (some offset) (some explanation)) :
      HasForm record (.array [level, offset, message, explanation])

theorem hasForm_of_ofJson? (h : ofJson? json = some record) : record.HasForm json := by
  cases json with
  | object members =>
    simp only [ofJson?, bind, Option.bind_eq_some_iff] at h
    obtain ⟨_, guarded, level?, levelFound, offset?, offsetFound, message?, messageFound,
      explanation?, explanationFound, level, rfl, message, rfl, read⟩ := h
    have named : ∀ member ∈ members, member.1.isSome = true := by
      apply List.all_eq_true.mp
      by_contra unnamed
      rw [guard, if_neg unnamed] at guarded
      cases guarded
    rw [member?_eq_some_iff] at levelFound offsetFound messageFound explanationFound
    exact .object ⟨named, levelFound, offsetFound, messageFound, explanationFound⟩
      (ofFields?_eq_some_iff.mp read)
  | array items =>
    unfold ofJson? at h
    split at h
    · rename_i other
      cases other
    · rename_i three
      cases three
      exact .three (ofFields?_eq_some_iff.mp h)
    · rename_i four
      cases four
      exact .four (ofFields?_eq_some_iff.mp h)
    · cases h
  | null | bool | number | string => cases h

/-- A value is read as a record exactly if it is one of its forms. -/
theorem ofJson?_eq_some_iff : ofJson? json = some record ↔ record.HasForm json := by
  constructor
  · exact hasForm_of_ofJson?
  · intro form
    cases form with
    | object gives values =>
      rw [ofJson?_object (List.all_eq_true.mpr gives.named) (member?_eq_some_iff.mpr gives.level)
        (member?_eq_some_iff.mpr gives.offset) (member?_eq_some_iff.mpr gives.message)
        (member?_eq_some_iff.mpr gives.explanation)]
      exact ofFields?_eq_some_iff.mpr values
    | three values => exact ofFields?_eq_some_iff.mpr values
    | four values => exact ofFields?_eq_some_iff.mpr values

end Record

/-! ## The records of a text -/

variable {records : List Record} {text : String}

/-- Records can fail for their names only. -/
theorem resolve_ne_malformed (source : Source) (number : Nat) (records : List Record) :
    resolve source number records ≠ .error .malformed := by
  induction records generalizing number with
  | nil => rintro ⟨⟩
  | cons record rest ih =>
    rw [resolve]
    split
    · rintro ⟨⟩
    · intro failed
      cases resolved : resolve source (number + 1) rest with
      | error failure =>
        rw [resolved] at failed
        cases failed
        exact ih (number + 1) resolved
      | ok diagnostics =>
        rw [resolved] at failed
        cases failed

theorem mapM_ofJson?_eq_some_iff {items : List Json} :
    items.mapM Record.ofJson? = some records ↔
      List.Forall₂ Record.HasForm records items := by
  induction items generalizing records with
  | nil => cases records <;> simp
  | cons item rest ih =>
    simp only [List.mapM_cons, bind, pure, Option.bind_eq_some_iff, Option.some.injEq, ih,
      Record.ofJson?_eq_some_iff]
    constructor
    · rintro ⟨record, form, others, forms, rfl⟩
      exact .cons form forms
    · rintro (_ | ⟨form, forms⟩)
      exact ⟨_, form, _, forms, rfl⟩

theorem exists_forms_iff {items : List Json} :
    (∃ records, List.Forall₂ Record.HasForm records items) ↔
      ∀ item ∈ items, ∃ record : Record, record.HasForm item := by
  induction items with
  | nil => simp
  | cons item rest ih =>
    rw [List.forall_mem_cons, ← ih]
    constructor
    · rintro ⟨_, _ | ⟨form, forms⟩⟩
      exact ⟨⟨_, form⟩, _, forms⟩
    · rintro ⟨⟨record, form⟩, records, forms⟩
      exact ⟨record :: records, .cons form forms⟩

/-- Of a text that writes an array, the records are those of its items. -/
theorem records?_of_written {items : List Json}
    (written : (Json.array items).WrittenAs text.toList) :
    records? text = items.mapM Record.ofJson? := by
  rw [records?, Json.parse?_eq_some_iff.mpr written]

/-- The text writes an array whose values are forms of the records. -/
def HoldsRecords (text : String) (records : List Record) : Prop :=
  ∃ items, (Json.array items).WrittenAs text.toList ∧ List.Forall₂ Record.HasForm records items

/-- The records of a text are those that it holds. -/
theorem records?_eq_some_iff : records? text = some records ↔ HoldsRecords text records := by
  constructor
  · intro h
    unfold records? at h
    split at h
    · rename_i items parsed
      exact ⟨items, Json.parse?_eq_some_iff.mp parsed, mapM_ofJson?_eq_some_iff.mp h⟩
    · cases h
  · rintro ⟨items, written, forms⟩
    rw [records?_of_written written]
    exact mapM_ofJson?_eq_some_iff.mpr forms

/-- A text holds no records if it writes no array, or one with a value that is not a record. -/
theorem not_holdsRecords_iff :
    (¬∃ records, HoldsRecords text records) ↔
      ∀ items, (Json.array items).WrittenAs text.toList →
        ∃ item ∈ items, ∀ record : Record, ¬record.HasForm item := by
  constructor
  · intro none items written
    by_contra fine
    push Not at fine
    obtain ⟨records, forms⟩ := exists_forms_iff.mpr fine
    exact none ⟨records, items, written, forms⟩
  · rintro misfit ⟨records, items, written, forms⟩
    obtain ⟨item, member, formless⟩ := misfit items written
    obtain ⟨record, form⟩ := exists_forms_iff.mp ⟨records, forms⟩ item member
    exact formless record form

/-- The text alone decides whether a replay is malformed. -/
theorem parse_eq_malformed_iff (source : Source) :
    parse source text = .error .malformed ↔ ¬∃ records, HoldsRecords text records := by
  simp only [← records?_eq_some_iff]
  unfold parse
  split
  · rename_i none
    simp [none]
  · rename_i records some
    simp [some, resolve_ne_malformed]

end Replay
end DiagnosticRelay
