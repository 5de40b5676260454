import DiagnosticRelay.Proofs.Replay.Form

/-!
# Members of records

A record can be stated in several ways. Members of unknown names may stand anywhere in an object,
and an array of the values states the same as an object with the fields. What cannot be read is
listed by `IsFaulty`: a single value of this kind makes the whole replay malformed.
-/

namespace DiagnosticRelay.Replay

/-! ## Fields -/

/-- The fields of a record. -/
inductive Field where
  | level
  | offset
  | message
  | explanation
deriving DecidableEq

namespace Field

/-- The fields in the order in which an array gives them. -/
def all : List Field := [level, offset, message, explanation]

def name : Field → String
  | level => "level"
  | offset => "offset"
  | message => "message"
  | explanation => "explanation"

/-- The values that a field takes: a level is a 32-bit number with a sign or a string, an offset a
64-bit number without a sign or null, a message a string, and an explanation a string or null. A
string must have a text. -/
def Accepts : Field → Json → Prop
  | level, json => (∃ n : Int, IsCode n ∧ json = .ofInt n) ∨ ∃ text, json = .string (some text)
  | offset, json => json = .null ∨ ∃ n : Nat, n < 2 ^ 64 ∧ json = .ofInt n
  | message, json => ∃ text, json = .string (some text)
  | explanation, json => json = .null ∨ ∃ text, json = .string (some text)

variable {json : Json}

theorem accepts_level_iff :
    level.Accepts json ↔ ∃ level : Level, json = level.toJson ∧
      ∀ code, level = .code code → -2 ^ 31 ≤ code ∧ code < 2 ^ 31 := by
  constructor
  · rintro (⟨n, isCode, rfl⟩ | ⟨text, rfl⟩)
    · refine ⟨.code n, rfl, ?_⟩
      rintro _ ⟨⟩
      exact isCode
    · exact ⟨.name text, rfl, fun _ other => nomatch other⟩
  · rintro ⟨_ | text, rfl, inRange⟩
    · exact .inl ⟨_, inRange _ rfl, rfl⟩
    · exact .inr ⟨text, rfl⟩

theorem accepts_offset_iff :
    offset.Accepts json ↔ ∃ offset? : Option Nat,
      json = (offset?.map fun n : Nat => Json.ofInt n).getD .null ∧
        ∀ offset, offset? = some offset → offset < 2 ^ 64 := by
  constructor
  · rintro (rfl | ⟨n, bound, rfl⟩)
    · exact ⟨none, rfl, fun _ other => nomatch other⟩
    · refine ⟨some n, rfl, ?_⟩
      rintro _ ⟨⟩
      exact bound
  · rintro ⟨_ | n, rfl, inRange⟩
    · exact .inl rfl
    · exact .inr ⟨n, inRange n rfl, rfl⟩

theorem accepts_explanation_iff :
    explanation.Accepts json ↔
      ∃ explanation? : Option String,
        json = (explanation?.map (Json.string <| some ·)).getD .null := by
  constructor
  · rintro (rfl | ⟨text, rfl⟩)
    · exact ⟨none, rfl⟩
    · exact ⟨some text, rfl⟩
  · rintro ⟨_ | text, rfl⟩
    · exact .inl rfl
    · exact .inr ⟨text, rfl⟩

end Field

/-! ## Values that are records -/

variable {record : Record} {members more : Members} {items : List Json}

/-- There is a record of four values exactly if each field takes its own. -/
theorem Record.exists_hasValues_iff {level message : Json} {offset? explanation? : Option Json} :
    (∃ record : Record, record.HasValues level message offset? explanation?) ↔
      Field.level.Accepts level ∧ Field.offset.Accepts (offset?.getD .null) ∧
        Field.message.Accepts message ∧ Field.explanation.Accepts (explanation?.getD .null) := by
  rw [Field.accepts_level_iff, Field.accepts_offset_iff, Field.accepts_explanation_iff]
  constructor
  · rintro ⟨record, inRange, levelGiven, offsetGiven, messageGiven, explanationGiven⟩
    exact ⟨⟨_, levelGiven, inRange.code⟩, ⟨_, offsetGiven, inRange.offset⟩, ⟨_, messageGiven⟩,
      _, explanationGiven⟩
  · rintro ⟨⟨level, levelGiven, code⟩, ⟨offset?, offsetGiven, bound⟩, ⟨message, messageGiven⟩,
      explanation?, explanationGiven⟩
    exact ⟨⟨level, offset?, message, explanation?⟩, ⟨code, bound⟩, levelGiven, offsetGiven,
      messageGiven, explanationGiven⟩

theorem Record.exists_form_object_iff :
    (∃ record : Record, record.HasForm (.object members)) ↔
      (∀ member ∈ members, member.1.isSome = true) ∧
        ∀ field : Field, ∃ value? : Option Json,
          valuesOf field.name members = value?.toList ∧ field.Accepts (value?.getD .null) := by
  constructor
  · rintro ⟨record, form⟩
    cases form with
    | object gives values =>
      obtain ⟨level, offset, message, explanation⟩ := exists_hasValues_iff.mp ⟨record, values⟩
      refine ⟨gives.named, fun field => ?_⟩
      cases field with
      | level => exact ⟨some _, gives.level, level⟩
      | offset => exact ⟨_, gives.offset, offset⟩
      | message => exact ⟨some _, gives.message, message⟩
      | explanation => exact ⟨_, gives.explanation, explanation⟩
  · rintro ⟨named, fits⟩
    obtain ⟨level?, levelGiven, level⟩ := fits .level
    obtain ⟨offset?, offsetGiven, offset⟩ := fits .offset
    obtain ⟨message?, messageGiven, message⟩ := fits .message
    obtain ⟨explanation?, explanationGiven, explanation⟩ := fits .explanation
    -- The two fields that do not take null are there.
    cases level? with
    | none => simp [Field.Accepts, Json.ofInt] at level
    | some level' =>
      cases message? with
      | none => simp [Field.Accepts] at message
      | some message' =>
        obtain ⟨record, values⟩ :=
          exists_hasValues_iff.mpr ⟨level, offset, message, explanation⟩
        have gives : GivesFields members level' message' offset? explanation? :=
          ⟨named, levelGiven, offsetGiven, messageGiven, explanationGiven⟩
        exact ⟨record, .object gives values⟩

theorem Record.exists_form_array_iff :
    (∃ record : Record, record.HasForm (.array items)) ↔
      (items.length = 3 ∨ items.length = 4) ∧
        ∀ entry ∈ Field.all.zip items, entry.1.Accepts entry.2 := by
  constructor
  · rintro ⟨record, form⟩
    cases form with
    | three values =>
      obtain ⟨level, offset, message, -⟩ := exists_hasValues_iff.mp ⟨record, values⟩
      refine ⟨.inl rfl, ?_⟩
      simp only [Field.all, List.zip_cons_cons, List.zip_nil_right, List.forall_mem_cons]
      exact ⟨level, offset, message, fun _ member => nomatch member⟩
    | four values =>
      obtain ⟨level, offset, message, explanation⟩ := exists_hasValues_iff.mp ⟨record, values⟩
      refine ⟨.inr rfl, ?_⟩
      simp only [Field.all, List.zip_cons_cons, List.zip_nil_right, List.forall_mem_cons]
      exact ⟨level, offset, message, explanation, fun _ member => nomatch member⟩
  · rintro ⟨three | four, fits⟩
    · obtain ⟨level, offset, message, rfl⟩ := List.length_eq_three.mp three
      simp only [Field.all, List.zip_cons_cons, List.zip_nil_right, List.forall_mem_cons] at fits
      obtain ⟨levelFits, offsetFits, messageFits, -⟩ := fits
      have values : ∃ record : Record, record.HasValues level message (some offset) none :=
        exists_hasValues_iff.mpr ⟨levelFits, offsetFits, messageFits, .inl rfl⟩
      exact values.imp fun _ => .three
    · obtain ⟨level, offset, message, explanation, rfl⟩ := List.length_eq_four.mp four
      simp only [Field.all, List.zip_cons_cons, List.zip_nil_right, List.forall_mem_cons] at fits
      obtain ⟨levelFits, offsetFits, messageFits, explanationFits, -⟩ := fits
      have values : ∃ record : Record,
          record.HasValues level message (some offset) (some explanation) :=
        exists_hasValues_iff.mpr ⟨levelFits, offsetFits, messageFits, explanationFits⟩
      exact values.imp fun _ => .four

/-! ## Values that are not records -/

/-- What cannot be read as a record: an object in which a name has no text, a field is given twice,
one that must be there is missing, or the value of one is not taken; an array of another length or
with a value that its field does not take; and everything that is neither an object nor an array. -/
inductive IsFaulty : Json → Prop where
  | unnamed {members : Members} {value : Json} (member : (none, value) ∈ members) :
      IsFaulty (.object members)
  | repeated {members : Members} (field : Field)
      (twice : 2 ≤ (valuesOf field.name members).length) : IsFaulty (.object members)
  | missing {members : Members} {field : Field} (needed : field = .level ∨ field = .message)
      (absent : valuesOf field.name members = []) : IsFaulty (.object members)
  | mistyped {members : Members} {field : Field} {value : Json}
      (given : (some field.name, value) ∈ members) (misfit : ¬field.Accepts value) :
      IsFaulty (.object members)
  | length {items : List Json} (wrong : items.length < 3 ∨ 4 < items.length) :
      IsFaulty (.array items)
  | mistypedItem {items : List Json} {field : Field} {value : Json}
      (given : (field, value) ∈ Field.all.zip items) (misfit : ¬field.Accepts value) :
      IsFaulty (.array items)
  | scalar {json : Json} (noObject : ∀ members, json ≠ .object members)
      (noArray : ∀ items, json ≠ .array items) : IsFaulty json

theorem mem_valuesOf {name : String} {value : Json} :
    value ∈ valuesOf name members ↔ (some name, value) ∈ members := by
  simp [valuesOf]

theorem Field.accepts_null_iff {field : Field} :
    field.Accepts .null ↔ ¬(field = .level ∨ field = .message) := by
  cases field <;> simp [Accepts, Json.ofInt]

theorem IsFaulty.formless {json : Json} (faulty : IsFaulty json) :
    ¬∃ record : Record, record.HasForm json := by
  intro form
  cases faulty with
  | unnamed member =>
    obtain ⟨named, -⟩ := Record.exists_form_object_iff.mp form
    cases named _ member
  | repeated field twice =>
    obtain ⟨-, fits⟩ := Record.exists_form_object_iff.mp form
    obtain ⟨value?, given, -⟩ := fits field
    cases value? <;> simp [given] at twice
  | @missing _ field needed absent =>
    obtain ⟨-, fits⟩ := Record.exists_form_object_iff.mp form
    obtain ⟨value?, given, accepted⟩ := fits field
    cases value? with
    | none => exact Field.accepts_null_iff.mp accepted needed
    | some value => simp [given] at absent
  | @mistyped _ field value given misfit =>
    obtain ⟨-, fits⟩ := Record.exists_form_object_iff.mp form
    obtain ⟨value?, only, accepted⟩ := fits field
    rw [← mem_valuesOf, only, Option.mem_toList] at given
    obtain rfl := given
    exact misfit accepted
  | length wrong =>
    obtain ⟨right, -⟩ := Record.exists_form_array_iff.mp form
    omega
  | mistypedItem given misfit =>
    obtain ⟨-, fits⟩ := Record.exists_form_array_iff.mp form
    exact misfit (fits _ given)
  | scalar noObject noArray =>
    obtain ⟨record, form⟩ := form
    cases form with
    | object => exact noObject _ rfl
    | three | four => exact noArray _ rfl

theorem isFaulty_object (formless : ¬∃ record : Record, record.HasForm (.object members)) :
    IsFaulty (.object members) := by
  rw [Record.exists_form_object_iff, not_and_or] at formless
  push Not at formless
  obtain ⟨⟨_ | name, value⟩, member, noName⟩ | ⟨field, misfit⟩ := formless
  · exact .unnamed member
  · exact absurd rfl noName
  · -- The number of values tells what is wrong with the field.
    match given : valuesOf field.name members with
    | [] =>
      have needed := misfit none given
      rw [Option.getD_none, Field.accepts_null_iff, not_not] at needed
      exact .missing needed given
    | [value] =>
      have member : (some field.name, value) ∈ members := by simp [← mem_valuesOf, given]
      exact .mistyped member (misfit (some value) given)
    | _ :: _ :: _ => exact .repeated field (by simp [given])

theorem isFaulty_array (formless : ¬∃ record : Record, record.HasForm (.array items)) :
    IsFaulty (.array items) := by
  rw [Record.exists_form_array_iff, not_and_or] at formless
  push Not at formless
  obtain ⟨notThree, notFour⟩ | ⟨_, given, misfit⟩ := formless
  · exact .length (by omega)
  · exact .mistypedItem given misfit

/-- A value is faulty exactly if it is no form of a record. -/
theorem isFaulty_iff {json : Json} : IsFaulty json ↔ ¬∃ record : Record, record.HasForm json := by
  constructor
  · exact IsFaulty.formless
  · intro formless
    cases json with
    | object => exact isFaulty_object formless
    | array => exact isFaulty_array formless
    | null | bool | number | string => exact .scalar (fun _ => nofun) fun _ => nofun

/-! ## Values that state the same -/

/-- The member has a name, and that is not the name of a field. -/
def IsIgnored (member : Option String × Json) : Prop :=
  ∃ name, member.1 = some name ∧ ∀ field : Field, name ≠ field.name

/-- Members that are ignored are inserted anywhere among others. -/
inductive Inserted : Members → Members → Prop where
  | nil : Inserted [] []
  | keep {member : Option String × Json} {members more : Members} (rest : Inserted members more) :
      Inserted (member :: members) (member :: more)
  | insert {member : Option String × Json} {members more : Members} (ignored : IsIgnored member)
      (rest : Inserted members more) : Inserted members (member :: more)

/-- The values state the same record, if they state one: ignored members do not matter, and an array
lists the fields of an object, with null for an offset or an explanation that is not given. An
explanation that is not given may also be left out at the end of the array. -/
inductive StatesSame : Json → Json → Prop where
  | refl (json : Json) : StatesSame json json
  | symm {json other : Json} (same : StatesSame json other) : StatesSame other json
  | trans {json other third : Json} (same : StatesSame json other) (next : StatesSame other third) :
      StatesSame json third
  | inserted {members more : Members} (inserted : Inserted members more) :
      StatesSame (.object members) (.object more)
  | four {members : Members} {level message : Json} {offset? explanation? : Option Json}
      (gives : Record.GivesFields members level message offset? explanation?) :
      StatesSame (.object members)
        (.array [level, offset?.getD .null, message, explanation?.getD .null])
  | three {members : Members} {level message : Json} {offset? : Option Json}
      (gives : Record.GivesFields members level message offset? none) :
      StatesSame (.object members) (.array [level, offset?.getD .null, message])

theorem Inserted.refl (members : Members) : Inserted members members := by
  induction members with
  | nil => exact .nil
  | cons _ _ ih => exact .keep ih

theorem Inserted.between (front : Members) {back : Members} {member : Option String × Json}
    (ignored : IsIgnored member) : Inserted (front ++ back) (front ++ member :: back) := by
  induction front with
  | nil => exact .insert ignored (.refl back)
  | cons _ _ ih => exact .keep ih

theorem Inserted.valuesOf_eq (inserted : Inserted members more) (field : Field) :
    valuesOf field.name more = valuesOf field.name members := by
  induction inserted with
  | nil => rfl
  | @keep member _ _ _ ih =>
    unfold valuesOf at ih ⊢
    rw [List.filter_cons, List.filter_cons]
    split
    · rw [List.map_cons, List.map_cons, ih]
    · exact ih
  | insert ignored _ ih =>
    obtain ⟨name, named, other⟩ := ignored
    unfold valuesOf at ih ⊢
    rw [List.filter_cons, if_neg (by simp [named, other field]), ih]

theorem Inserted.named_iff (inserted : Inserted members more) :
    (∀ member ∈ more, member.1.isSome = true) ↔ ∀ member ∈ members, member.1.isSome = true := by
  induction inserted with
  | nil => rfl
  | keep _ ih => rw [List.forall_mem_cons, List.forall_mem_cons, ih]
  | insert ignored _ ih =>
    obtain ⟨name, named, -⟩ := ignored
    simp only [List.forall_mem_cons, named, Option.isSome_some, true_and, ih]

namespace Record

variable {level message : Json} {offset? explanation? : Option Json}

theorem givesFields_inserted_iff (inserted : Inserted members more) :
    GivesFields more level message offset? explanation? ↔
      GivesFields members level message offset? explanation? := by
  have same := inserted.valuesOf_eq
  constructor
  · rintro ⟨named, levelGiven, offsetGiven, messageGiven, explanationGiven⟩
    exact ⟨inserted.named_iff.mp named, (same .level).symm.trans levelGiven,
      (same .offset).symm.trans offsetGiven, (same .message).symm.trans messageGiven,
      (same .explanation).symm.trans explanationGiven⟩
  · rintro ⟨named, levelGiven, offsetGiven, messageGiven, explanationGiven⟩
    exact ⟨inserted.named_iff.mpr named, (same .level).trans levelGiven,
      (same .offset).trans offsetGiven, (same .message).trans messageGiven,
      (same .explanation).trans explanationGiven⟩

/-- A name has one value at most. -/
theorem value?_unique {name : String} {value? other? : Option Json}
    (given : valuesOf name members = value?.toList)
    (otherGiven : valuesOf name members = other?.toList) : value? = other? := by
  rw [← member?_eq_some_iff] at given otherGiven
  exact Option.some.inj (given.symm.trans otherGiven)

/-- The record of an object is the one of the values that it gives. -/
theorem GivesFields.hasForm_iff (gives : GivesFields members level message offset? explanation?) :
    record.HasForm (.object members) ↔ record.HasValues level message offset? explanation? := by
  constructor
  · rintro (⟨other, values⟩)
    obtain ⟨rfl⟩ : [_] = [level] := other.level.symm.trans gives.level
    obtain ⟨rfl⟩ : [_] = [message] := other.message.symm.trans gives.message
    obtain rfl := value?_unique other.offset gives.offset
    obtain rfl := value?_unique other.explanation gives.explanation
    exact values
  · exact .object gives

theorem hasForm_three_iff {offset : Json} :
    record.HasForm (.array [level, offset, message]) ↔
      record.HasValues level message (some offset) none :=
  ⟨fun | .three values => values, .three⟩

theorem hasForm_four_iff {offset explanation : Json} :
    record.HasForm (.array [level, offset, message, explanation]) ↔
      record.HasValues level message (some offset) (some explanation) :=
  ⟨fun | .four values => values, .four⟩

/-- A value that is missing counts as null. -/
theorem hasValues_congr {offset'? explanation'? : Option Json}
    (offset : offset?.getD .null = offset'?.getD .null)
    (explanation : explanation?.getD .null = explanation'?.getD .null) :
    record.HasValues level message offset? explanation? ↔
      record.HasValues level message offset'? explanation'? := by
  constructor
  · rintro ⟨inRange, levelGiven, offsetGiven, messageGiven, explanationGiven⟩
    exact ⟨inRange, levelGiven, offset.symm.trans offsetGiven, messageGiven,
      explanation.symm.trans explanationGiven⟩
  · rintro ⟨inRange, levelGiven, offsetGiven, messageGiven, explanationGiven⟩
    exact ⟨inRange, levelGiven, offset.trans offsetGiven, messageGiven,
      explanation.trans explanationGiven⟩

theorem hasForm_iff_of_statesSame {json other : Json} (same : StatesSame json other) :
    record.HasForm json ↔ record.HasForm other := by
  induction same with
  | refl => rfl
  | symm _ ih => exact ih.symm
  | trans _ _ ih ih' => exact ih.trans ih'
  | inserted inserted =>
    constructor
    · rintro (⟨gives, values⟩)
      exact .object ((givesFields_inserted_iff inserted).mpr gives) values
    · rintro (⟨gives, values⟩)
      exact .object ((givesFields_inserted_iff inserted).mp gives) values
  | four gives =>
    rw [gives.hasForm_iff, hasForm_four_iff]
    exact hasValues_congr rfl rfl
  | three gives =>
    rw [gives.hasForm_iff, hasForm_three_iff]
    exact hasValues_congr rfl rfl

theorem ofJson?_eq_of_statesSame {json other : Json} (same : StatesSame json other) :
    ofJson? json = ofJson? other := by
  ext record
  rw [ofJson?_eq_some_iff, ofJson?_eq_some_iff, hasForm_iff_of_statesSame same]

end Record

/-! ## Replays -/

theorem mapM_ofJson?_eq_of_statesSame {others : List Json}
    (same : List.Forall₂ StatesSame items others) :
    items.mapM Record.ofJson? = others.mapM Record.ofJson? := by
  induction same with
  | nil => rfl
  | cons head _ ih => rw [List.mapM_cons, List.mapM_cons, Record.ofJson?_eq_of_statesSame head, ih]

theorem parse_eq_malformed_iff_isFaulty {text : String} (source : Source)
    (written : (Json.array items).WrittenAs text.toList) :
    parse source text = .error .malformed ↔ ∃ item ∈ items, IsFaulty item := by
  have holds : (∃ records, HoldsRecords text records) ↔
      ∀ item ∈ items, ∃ record : Record, record.HasForm item := by
    simp only [← exists_forms_iff, ← records?_eq_some_iff, records?_of_written written,
      mapM_ofJson?_eq_some_iff]
  rw [parse_eq_malformed_iff, holds]
  push Not
  simp only [isFaulty_iff, not_exists]

/-- Replays whose items state the same, one by one, are read with the same result, and a replay is
malformed exactly if one of its items is faulty, whatever the others are. -/
theorem parse_same_or_faulty (source : Source) (items : List Json) (text : String)
    (written : (Json.array items).WrittenAs text.toList) :
    (∀ others other, (Json.array others).WrittenAs other.toList →
      List.Forall₂ StatesSame items others → parse source other = parse source text) ∧
    (parse source text = .error .malformed ↔ ∃ item ∈ items, IsFaulty item) := by
  constructor
  · intro others other otherWritten same
    rw [parse, parse, records?_of_written written, records?_of_written otherWritten,
      mapM_ofJson?_eq_of_statesSame same]
  · exact parse_eq_malformed_iff_isFaulty source written

theorem parse_same_or_faulty_of_two :
    parse .absent "[\x7b\"a\":[],\"level\":1,\"a\":\"\\ud800\",\"message\":\"m\"\x7d]" =
        parse .absent "[[1,null,\"m\"]]" ∧
      parse .absent "[[1,null,\"m\"],[1]]" = .error .malformed := by
  have ignored : ∀ value, IsIgnored (some "a", value) := fun _ =>
    ⟨"a", rfl, fun field => by cases field <;> decide⟩
  have given : Record.GivesFields [(some "level", .ofInt 1), (some "message", .string (some "m"))]
      (.ofInt 1) (.string (some "m")) none none :=
    ⟨by decide, by simp [valuesOf], by simp [valuesOf], by simp [valuesOf], by simp [valuesOf]⟩
  have same : StatesSame (.array [.ofInt 1, .null, .string (some "m")])
      (.object [(some "a", .array []), (some "level", .ofInt 1), (some "a", .string none),
        (some "message", .string (some "m"))]) :=
    .trans (.symm (.three given))
      (.inserted (.insert (ignored _) (.keep (.insert (ignored _) (.keep .nil)))))
  constructor
  · have written : Json.WrittenAs (.array [.array [.ofInt 1, .null, .string (some "m")]])
        "[[1,null,\"m\"]]".toList := Json.parse?_eq_some_iff.mp (by cbv)
    exact (parse_same_or_faulty .absent _ _ written).1 _ _ (Json.parse?_eq_some_iff.mp (by cbv))
      (.cons same .nil)
  · have written : Json.WrittenAs
        (.array [.array [.ofInt 1, .null, .string (some "m")], .array [.ofInt 1]])
        "[[1,null,\"m\"],[1]]".toList := Json.parse?_eq_some_iff.mp (by cbv)
    exact (parse_same_or_faulty .absent _ _ written).2.mpr
      ⟨.array [.ofInt 1], by simp, .length (.inl (by decide))⟩

end DiagnosticRelay.Replay
