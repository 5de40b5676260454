import DiagnosticRelay.Proofs.Replay.Members
import DiagnosticRelay.Proofs.Replay.Resolution

/-!
# Numbers in replays

A number in the place of a level or an offset is read exactly if its literal is that of an integer
in the range of the field, of however many digits the literal is, and nothing else is wrong with the
replay. What may be wrong around the number is said by `Slot.IsSound`, through the values that the
other fields take. A fraction, an exponent or a sign in front of a zero make a number that no field
takes, even if it is a whole number in range. In a member that is ignored every number may stand.
-/

namespace DiagnosticRelay

/-! ## Literals -/

namespace Json.Numeral

variable {numeral : Numeral} {negative : Bool} {magnitude : Nat} {decimal : Bool}
  {literal text : List Char} {n : Int}

theorem unsignedWrittenAs_whole_iff :
    UnsignedWrittenAs magnitude false text ↔ text = Nat.toDigits 10 magnitude := by
  constructor
  · generalize whole : false = decimal
    rintro ⟨fractionWritten, exponentWritten⟩
    cases fractionWritten with
    | present => cases whole
    | missing =>
      cases exponentWritten with
      | present => cases whole
      | missing => exact List.append_nil _
  · rintro rfl
    have written : UnsignedWrittenAs magnitude false (Nat.toDigits 10 magnitude ++ ([] ++ [])) :=
      .intro .missing .missing
    rwa [List.append_nil, List.append_nil] at written

/-- Without a fraction and an exponent there is one literal. -/
theorem writtenAs_whole_iff :
    WrittenAs ⟨negative, magnitude, false⟩ literal ↔
      literal = (if negative then ['-'] else []) ++ Nat.toDigits 10 magnitude := by
  constructor
  · rintro (unsigned | unsigned)
    · exact unsignedWrittenAs_whole_iff.mp unsigned
    · exact congrArg ('-' :: ·) (unsignedWrittenAs_whole_iff.mp unsigned)
  · rintro rfl
    cases negative with
    | false => exact .positive (unsignedWrittenAs_whole_iff.mpr rfl)
    | true => exact .negative (unsignedWrittenAs_whole_iff.mpr rfl)

/-- The literal of an integer is its decimal notation. -/
theorem writtenAs_ofInt_iff : (ofInt n).WrittenAs literal ↔ literal = (toString n).toList := by
  rw [ofInt, writtenAs_whole_iff, Int.toString_eq_repr, Int.repr_eq_if]
  by_cases nonnegative : 0 ≤ n
  · have sign : ¬n < 0 := by omega
    have same : n.natAbs = n.toNat := by omega
    simp [nonnegative, sign, same]
  · have sign : n < 0 := by omega
    have same : n.natAbs = (-n).toNat := by omega
    simp [nonnegative, sign, same]

theorem isDigit_of_mem_whole {c : Char}
    (mem : c ∈ (if negative then ['-'] else []) ++ Nat.toDigits 10 magnitude) :
    c.isDigit = true ∨ c = '-' := by
  obtain mem | mem := List.mem_append.mp mem
  · cases negative with
    | false => cases mem
    | true => exact .inr (List.mem_singleton.mp mem)
  · exact .inl (Text.isDigit_of_mem_toDigits mem)

theorem mem_of_decimal (unsigned : UnsignedWrittenAs magnitude true text) :
    '.' ∈ text ∨ 'e' ∈ text ∨ 'E' ∈ text := by
  generalize decimal : true = flag at unsigned
  obtain ⟨fractionWritten, exponentWritten⟩ := unsigned
  cases fractionWritten with
  | present => simp
  | missing =>
    cases exponentWritten with
    | missing => cases decimal
    | @present letter _ _ letter_mem =>
      have letter_eq : letter = 'e' ∨ letter = 'E' := by simpa using letter_mem
      obtain rfl | rfl := letter_eq <;> simp

/-- A fraction begins with a point and an exponent with a letter. -/
theorem decimal_iff (written : numeral.WrittenAs literal) :
    numeral.decimal = true ↔ '.' ∈ literal ∨ 'e' ∈ literal ∨ 'E' ∈ literal := by
  obtain ⟨negative, magnitude, decimal⟩ := numeral
  cases decimal with
  | true =>
    refine iff_of_true rfl ?_
    cases written with
    | positive unsigned => exact mem_of_decimal unsigned
    | negative unsigned => simpa using mem_of_decimal unsigned
  | false =>
    refine iff_of_false Bool.false_ne_true ?_
    rw [writtenAs_whole_iff.mp written]
    rintro (mem | mem | mem)
    all_goals exact absurd (isDigit_of_mem_whole mem) (by decide)

theorem ofInt_injective : Function.Injective ofInt := by
  intro n m same
  have denoted := congrArg toInt? same
  rw [toInt?_ofInt, toInt?_ofInt] at denoted
  exact Option.some.inj denoted

theorem forall_ne_ofInt_iff :
    (∀ n, numeral ≠ ofInt n) ↔ numeral.decimal = true ∨ numeral = ⟨true, 0, false⟩ := by
  simp only [Ne, ← toInt?_eq_some_iff, ← Option.eq_none_iff_forall_ne_some]
  obtain ⟨negative, magnitude, decimal⟩ := numeral
  cases decimal with
  | true => simp [toInt?]
  | false => cases negative <;> simp [toInt?]

theorem eq_of_writtenAs {other : Numeral} (written : numeral.WrittenAs literal)
    (otherWritten : other.WrittenAs literal) : numeral = other := by
  have ends : EndsNumber [] := nofun
  have read := Token.next_written (.number written) fun _ => ends
  rw [Token.next_written (.number otherWritten) fun _ => ends] at read
  cases read
  rfl

theorem eq_ofInt_iff (written : numeral.WrittenAs literal) :
    numeral = ofInt n ↔ literal = (toString n).toList := by
  rw [← writtenAs_ofInt_iff]
  constructor
  · rintro rfl
    exact written
  · exact eq_of_writtenAs written

/-- A literal is not that of an integer exactly if it has a fraction or an exponent, or is a zero
with a sign. -/
theorem forall_ne_toString_iff (written : numeral.WrittenAs literal) :
    (∀ n : Int, literal ≠ (toString n).toList) ↔
      '.' ∈ literal ∨ 'e' ∈ literal ∨ 'E' ∈ literal ∨ literal = ['-', '0'] := by
  have minusZero : numeral = ⟨true, 0, false⟩ ↔ literal = ['-', '0'] := by
    constructor
    · rintro rfl
      exact writtenAs_whole_iff.mp written
    · rintro rfl
      exact eq_of_writtenAs written (writtenAs_whole_iff.mpr rfl)
  simp only [Ne, ← eq_ofInt_iff written]
  rw [forall_ne_ofInt_iff, decimal_iff written, minusZero, or_assoc, or_assoc]

end Json.Numeral

namespace Replay

/-! ## Fields that take numbers -/

namespace Field

/-- The index of the value of the field in an array. -/
def index : Field → Nat
  | level => 0
  | offset => 1
  | message => 2
  | explanation => 3

theorem name_injective : Function.Injective name := by
  intro field other same
  cases field <;> cases other <;> first | rfl | exact absurd same (by decide)

/-- The numbers that a field takes: levels have 32 bits and a sign, offsets 64 bits and none. -/
def Range : Field → Int → Prop
  | level, n => -2 ^ 31 ≤ n ∧ n < 2 ^ 31
  | offset, n => 0 ≤ n ∧ n < 2 ^ 64
  | message, _ | explanation, _ => False

/-- What a number tells about the diagnostic, in the field in which it stands. -/
def Tells (source : Source) : Field → Int → Diagnostic → Prop
  | level, n, diagnostic => diagnostic.code = n
  | offset, n, diagnostic => ∃ point : Nat, n = point ∧ diagnostic.location = .within source point
  | message, _, _ | explanation, _, _ => False

theorem accepts_number_iff {field : Field} {numeral : Json.Numeral} :
    field.Accepts (.number numeral) ↔ ∃ n, numeral = .ofInt n ∧ field.Range n := by
  cases field with
  | level =>
    constructor
    · rintro (⟨n, isCode, ⟨⟩⟩ | ⟨_, ⟨⟩⟩)
      exact ⟨n, rfl, isCode⟩
    · rintro ⟨n, rfl, range⟩
      exact .inl ⟨n, range, rfl⟩
  | offset =>
    constructor
    · rintro (⟨⟨⟩⟩ | ⟨point, bound, ⟨⟩⟩)
      exact ⟨point, rfl, by simp only [Range]; omega⟩
    · rintro ⟨n, rfl, nonnegative, bound⟩
      exact .inr ⟨n.toNat, by omega, by rw [Int.toNat_of_nonneg nonnegative, Json.ofInt]⟩
  | message => simp [Accepts, Range]
  | explanation => simp [Accepts, Range]

end Field

variable {field : Field} {record : Record} {numeral : Json.Numeral} {json value : Json} {n : Int}

/-! ## The values of fields -/

/-- The value stands for the field: in an object under its name, in an array at its index. -/
inductive Gives : Json → Field → Json → Prop where
  | member {members : Members} {field : Field} {value : Json}
      (member : (some field.name, value) ∈ members) : Gives (.object members) field value
  | item {items : List Json} {field : Field} {value : Json}
      (item : items[field.index]? = some value) : Gives (.array items) field value

theorem gives_object_iff {members : Members} :
    Gives (.object members) field value ↔ value ∈ valuesOf field.name members := by
  rw [mem_valuesOf]
  exact ⟨fun | .member member => member, .member⟩

theorem gives_array_iff {items : List Json} :
    Gives (.array items) field value ↔ items[field.index]? = some value :=
  ⟨fun | .item item => item, .item⟩

namespace Record.HasForm

theorem gives_level_iff (form : record.HasForm json) :
    Gives json .level value ↔ value = record.level.toJson := by
  cases form with
  | object gives values =>
    rw [gives_object_iff, Field.name, gives.level, List.mem_singleton, values.level]
  | three values | four values =>
    rw [gives_array_iff, Field.index, List.getElem?_cons_zero, Option.some_inj, values.level,
      eq_comm]

theorem offset_of_gives (form : record.HasForm json) (given : Gives json .offset value) :
    value = (record.offset?.map fun n : Nat => Json.ofInt n).getD .null := by
  cases form with
  | object gives values =>
    rw [gives_object_iff, Field.name, gives.offset, Option.mem_toList] at given
    rw [← values.offset, given, Option.getD_some]
  | three values | four values =>
    rw [← values.offset]
    exact (Option.some.inj (gives_array_iff.mp given)).symm

/-- Whether the level is known is seen from the name that is given for it, if one is. -/
theorem isKnown_iff (form : record.HasForm json) :
    record.IsKnown ↔ ∀ name, Gives json .level (.string (some name)) → IsLevelName name := by
  rw [Record.isKnown_iff]
  refine forall_congr' fun name => ?_
  rw [form.gives_level_iff]
  cases record.level <;> simp [Level.toJson, Json.ofInt, eq_comm]

end Record.HasForm

/-! ## Places for numbers -/

/-- The place of a field in a record, with what stands around it: a member of an object, or the item
of an array that has the index of the field. -/
inductive Slot (field : Field) where
  | member (front back : Members)
  | item (front back : List Json) (place : front.length = field.index)

namespace Slot

def fill (value : Json) : Slot field → Json
  | member front back => .object (front ++ (some field.name, value) :: back)
  | item front back _ => .array (front ++ value :: back)

/-- Nothing is wrong around the place. In an object every name has a text, the field is given
nowhere else, and each other field at most once, with a value that it takes; one that is not given
counts as null. In an array there are two or three other items, and the fields in front of the place
and behind it take theirs. -/
inductive IsSound : Slot field → Prop where
  | member {front back : Members}
      (named : ∀ member ∈ front ++ back, member.1.isSome = true)
      (alone : valuesOf field.name (front ++ back) = [])
      (others : ∀ other ≠ field, ∃ value? : Option Json,
        valuesOf other.name (front ++ back) = value?.toList ∧ other.Accepts (value?.getD .null)) :
      IsSound (.member front back)
  | item {front back : List Json} {place : front.length = field.index}
      (count : front.length + back.length = 2 ∨ front.length + back.length = 3)
      (inFront : ∀ entry ∈ (Field.all.take field.index).zip front, entry.1.Accepts entry.2)
      (behind : ∀ entry ∈ (Field.all.drop (field.index + 1)).zip back, entry.1.Accepts entry.2) :
      IsSound (.item front back place)

theorem gives_fill (slot : Slot field) (value : Json) : Gives (slot.fill value) field value := by
  cases slot with
  | member front back => exact .member (List.mem_append_right front List.mem_cons_self)
  | item front back place => exact .item (by simp [← place])

section Members

variable {front back : Members} {value? : Option Json} {name key : String}

theorem valuesOf_append :
    valuesOf name (front ++ back) = valuesOf name front ++ valuesOf name back := by
  simp [valuesOf]

theorem valuesOf_other (ne : key ≠ name) (value : Json) :
    valuesOf name (front ++ (some key, value) :: back) = valuesOf name (front ++ back) := by
  simp [valuesOf, ne]

/-- A member is the only one of its name if the name has one value at most. -/
theorem valuesOf_own_iff :
    valuesOf name (front ++ (some name, value) :: back) = value?.toList ↔
      valuesOf name (front ++ back) = [] ∧ value? = some value := by
  have around : valuesOf name (front ++ (some name, value) :: back) =
      valuesOf name front ++ value :: valuesOf name back := by
    simp [valuesOf]
  rw [around, valuesOf_append]
  cases value? with
  | none => simp
  | some other =>
    rw [Option.toList_some, List.append_eq_singleton_iff, List.append_eq_nil_iff, Option.some_inj]
    constructor
    · rintro (⟨front_nil, same⟩ | ⟨-, none⟩)
      · obtain ⟨rfl, back_nil⟩ := List.cons.inj same
        exact ⟨⟨front_nil, back_nil⟩, rfl⟩
      · cases none
    · rintro ⟨⟨front_nil, back_nil⟩, rfl⟩
      exact .inl ⟨front_nil, congrArg (other :: ·) back_nil⟩

end Members

/-- The fields of the items around a place are those in front of its field and behind it. -/
theorem zip_fill {front back : List Json} (place : front.length = field.index) :
    Field.all.zip (front ++ value :: back) = (Field.all.take field.index).zip front ++
      (field, value) :: (Field.all.drop (field.index + 1)).zip back := by
  have split : Field.all =
      Field.all.take field.index ++ field :: Field.all.drop (field.index + 1) := by
    cases field <;> rfl
  have lengths : (Field.all.take field.index).length = front.length := by
    rw [place]
    cases field <;> rfl
  conv_lhs => rw [split, List.zip_append lengths, List.zip_cons_cons]

/-- There is a record with the value in the place exactly if the field takes the value and nothing
is wrong around the place. -/
theorem exists_form_iff (slot : Slot field) :
    (∃ record : Record, record.HasForm (slot.fill value)) ↔
      slot.IsSound ∧ field.Accepts value := by
  cases slot with
  | member front back =>
    rw [fill, Record.exists_form_object_iff, List.forall_mem_append, List.forall_mem_cons]
    constructor
    · rintro ⟨⟨inFront, -, behind⟩, fits⟩
      obtain ⟨value?, given, accepted⟩ := fits field
      obtain ⟨alone, rfl⟩ := valuesOf_own_iff.mp given
      refine ⟨.member (List.forall_mem_append.mpr ⟨inFront, behind⟩) alone ?_, accepted⟩
      intro other ne
      rw [← valuesOf_other (Field.name_injective.ne ne.symm) value]
      exact fits other
    · rintro ⟨⟨named, alone, others⟩, accepted⟩
      obtain ⟨inFront, behind⟩ := List.forall_mem_append.mp named
      refine ⟨⟨inFront, rfl, behind⟩, fun other => ?_⟩
      by_cases own : other = field
      · subst own
        exact ⟨some value, valuesOf_own_iff.mpr ⟨alone, rfl⟩, accepted⟩
      · rw [valuesOf_other (Field.name_injective.ne (Ne.symm own)) value]
        exact others other own
  | item front back place =>
    rw [fill, Record.exists_form_array_iff, zip_fill place, List.forall_mem_append,
      List.forall_mem_cons, List.length_append, List.length_cons]
    constructor
    · rintro ⟨count, inFront, accepted, behind⟩
      exact ⟨.item (by omega) inFront behind, accepted⟩
    · rintro ⟨sound, accepted⟩
      cases sound with
      | item count inFront behind => exact ⟨by omega, inFront, accepted, behind⟩

/-- What a number in the place tells is true of the diagnostic that is recorded. -/
theorem tells {source : Source} {diagnostic : Diagnostic} (slot : Slot field)
    (form : record.HasForm (slot.fill (.ofInt n))) (range : field.Range n)
    (recorded : record.IsRecordOf source diagnostic) : field.Tells source n diagnostic := by
  have given := slot.gives_fill (.ofInt n)
  cases field with
  | level =>
    have level := form.gives_level_iff.mp given
    cases known : record.level with
    | code code =>
      rw [known] at level
      obtain rfl := Json.Numeral.ofInt_injective (Json.number.inj level)
      exact recorded.code n known
    | name levelName =>
      rw [known] at level
      cases level
  | offset =>
    have offset := form.offset_of_gives given
    cases known : record.offset? with
    | none =>
      rw [known] at offset
      cases offset
    | some point =>
      rw [known] at offset
      have same := Json.Numeral.ofInt_injective (Json.number.inj offset)
      exact ⟨point, same, recorded.within point known⟩
  | message | explanation => cases range

end Slot

/-! ## Replays -/

variable {records : List Record} {items before after : List Json} {text other : String}
  {source : Source} {diagnostics : List Diagnostic}

/-- What stands around a value belongs to what stands around the one that it is related to. -/
theorem exists_around {α β : Type} {R : α → β → Prop} {items : List α} {front back : List β}
    {value : β} (related : List.Forall₂ R items (front ++ value :: back)) :
    ∃ front' value' back', items = front' ++ value' :: back' ∧
      List.Forall₂ R front' front ∧ R value' value ∧ List.Forall₂ R back' back := by
  have taken := List.forall₂_take_append _ _ _ related
  have dropped := List.forall₂_drop_append _ _ _ related
  obtain ⟨value', back', head, tail, split⟩ := List.forall₂_cons_right_iff.mp dropped
  refine ⟨_, value', back', ?_, taken, head, tail⟩
  rw [← split, List.take_append_drop]

theorem parse_ne_malformed_iff (written : (Json.array items).WrittenAs text.toList) :
    parse source text ≠ .error .malformed ↔
      ∀ item ∈ items, ∃ record : Record, record.HasForm item := by
  rw [Ne, parse_eq_malformed_iff_isFaulty source written]
  push Not
  simp only [isFaulty_iff, not_not]

theorem forall_isKnown_iff (forms : List.Forall₂ Record.HasForm records items) :
    (∀ record ∈ records, record.IsKnown) ↔
      ∀ item ∈ items, ∀ name, Gives item .level (.string (some name)) → IsLevelName name := by
  induction forms with
  | nil => simp
  | cons form _ ih => rw [List.forall_mem_cons, List.forall_mem_cons, form.isKnown_iff, ih]

theorem holdsRecords_iff_of_written (written : (Json.array items).WrittenAs text.toList) :
    HoldsRecords text records ↔ List.Forall₂ Record.HasForm records items := by
  rw [← records?_eq_some_iff, records?_of_written written, mapM_ofJson?_eq_some_iff]

/-- A replay that is not malformed is read exactly if the names among its levels are known. -/
theorem exists_parse_iff (written : (Json.array items).WrittenAs text.toList) :
    (∃ diagnostics, parse source text = .ok diagnostics) ↔
      parse source text ≠ .error .malformed ∧
        ∀ item ∈ items, ∀ name, Gives item .level (.string (some name)) → IsLevelName name := by
  rw [Ne, parse_eq_malformed_iff, not_not]
  constructor
  · rintro ⟨diagnostics, parsed⟩
    obtain ⟨records, holds, known, -⟩ := holdsRecords_of_parse parsed
    have forms := (holdsRecords_iff_of_written written).mp holds
    exact ⟨⟨records, holds⟩, (forall_isKnown_iff forms).mp known⟩
  · rintro ⟨⟨records, holds⟩, known⟩
    have forms := (holdsRecords_iff_of_written written).mp holds
    exact (parse_ok_iff holds).mpr ((forall_isKnown_iff forms).mpr known)

/-- The diagnostic of a record has the number that the record has. -/
theorem exists_tells (slot : Slot field)
    (written : (Json.array (before ++ slot.fill (.number numeral) :: after)).WrittenAs text.toList)
    (parsed : parse source text = .ok diagnostics) :
    ∃ n diagnostic, numeral = .ofInt n ∧ field.Range n ∧
      diagnostics[before.length]? = some diagnostic ∧ field.Tells source n diagnostic := by
  obtain ⟨records, holds, -, recorded⟩ := holdsRecords_of_parse parsed
  have forms := (holdsRecords_iff_of_written written).mp holds
  obtain ⟨front, record, back, rfl, frontForms, form, -⟩ := exists_around forms
  obtain ⟨front', diagnostic, back', rfl, frontRecorded, recorded, -⟩ :=
    exists_around recorded.flip
  obtain ⟨-, accepted⟩ := slot.exists_form_iff.mp ⟨record, form⟩
  obtain ⟨n, rfl, range⟩ := Field.accepts_number_iff.mp accepted
  refine ⟨n, diagnostic, rfl, range, ?_, slot.tells form range recorded⟩
  have place : before.length = front'.length :=
    frontForms.length_eq.symm.trans frontRecorded.length_eq.symm
  simp [place]

theorem parse_eq_of_statesSame {item item' : Json} (source : Source)
    (same : StatesSame item item')
    (written : (Json.array (before ++ item :: after)).WrittenAs text.toList)
    (otherWritten : (Json.array (before ++ item' :: after)).WrittenAs other.toList) :
    parse source other = parse source text := by
  have unchanged (items : List Json) : List.Forall₂ StatesSame items items :=
    List.forall₂_same.mpr fun json _ => .refl json
  have allSame := List.rel_append (unchanged before) (.cons same (unchanged after))
  rw [parse, parse, records?_of_written written, records?_of_written otherWritten,
    mapM_ofJson?_eq_of_statesSame allSame]

/-! ## Literals in replays -/

/-- What becomes of a replay with a number in the place of a field, by the literal of the number. -/
structure ReadsLiteral (source : Source) (numeral : Json.Numeral) (literal : List Char)
    (slot : Slot field) (before after : List Json) (text : String) : Prop where
  /-- The replay is well formed exactly if the literal is that of an integer in the range of the
  field, nothing is wrong around it, and the other items are records. -/
  formed : parse source text ≠ .error .malformed ↔
    (∃ n : Int, literal = (toString n).toList ∧ field.Range n) ∧ slot.IsSound ∧
      ∀ item ∈ before ++ after, ∃ record : Record, record.HasForm item
  /-- It is then read exactly if no item gives an unknown name for its level. -/
  read : (∃ diagnostics, parse source text = .ok diagnostics) ↔
    parse source text ≠ .error .malformed ∧
      ∀ item ∈ before ++ slot.fill (.number numeral) :: after, ∀ name,
        Gives item .level (.string (some name)) → IsLevelName name
  /-- The diagnostic of the record has the integer. -/
  tells : ∀ diagnostics, parse source text = .ok diagnostics →
    ∃ (n : Int) (diagnostic : Diagnostic), literal = (toString n).toList ∧ field.Range n ∧
      diagnostics[before.length]? = some diagnostic ∧ field.Tells source n diagnostic

theorem readsLiteral_of_written {literal : List Char} (slot : Slot field)
    (literalWritten : numeral.WrittenAs literal)
    (written :
      (Json.array (before ++ slot.fill (.number numeral) :: after)).WrittenAs text.toList) :
    ReadsLiteral source numeral literal slot before after text := by
  have integer_iff {n : Int} := Json.Numeral.eq_ofInt_iff (n := n) literalWritten
  constructor
  case formed =>
    rw [parse_ne_malformed_iff written, List.forall_mem_append, List.forall_mem_cons,
      slot.exists_form_iff, Field.accepts_number_iff, List.forall_mem_append]
    simp only [integer_iff]
    tauto
  case read => exact exists_parse_iff written
  case tells =>
    intro diagnostics parsed
    obtain ⟨n, diagnostic, integer, told⟩ := exists_tells slot written parsed
    exact ⟨n, diagnostic, integer_iff.mp integer, told⟩

/-- In the place of a field the literal of a number has to be the decimal notation of an integer in
the range of the field, and then it is read as this integer. It is that of no integer if it has a
fraction or an exponent or is a zero with a sign. In a member that is ignored the literal changes
nothing. -/
theorem parse_number (source : Source) (numeral : Json.Numeral) (literal : List Char)
    (literalWritten : numeral.WrittenAs literal) :
    ((∀ n : Int, literal ≠ (toString n).toList) ↔
      '.' ∈ literal ∨ 'e' ∈ literal ∨ 'E' ∈ literal ∨ literal = ['-', '0']) ∧
    (∀ (field : Field) (slot : Slot field) before after (text : String),
      (Json.array (before ++ slot.fill (.number numeral) :: after)).WrittenAs text.toList →
      ReadsLiteral source numeral literal slot before after text) ∧
    ∀ name, (∀ field : Field, name ≠ field.name) →
      ∀ (front back : Members) before after (text other : String),
      (Json.array (before ++ .object (front ++ back) :: after)).WrittenAs text.toList →
      (Json.array (before ++ .object (front ++ (some name, .number numeral) :: back) ::
        after)).WrittenAs other.toList →
      parse source other = parse source text ∧ (parse source other ≠ .error .malformed ↔
        ∀ item ∈ before ++ .object (front ++ back) :: after,
          ∃ record : Record, record.HasForm item) := by
  refine ⟨Json.Numeral.forall_ne_toString_iff literalWritten, ?_, ?_⟩
  · intro field slot before after text written
    exact readsLiteral_of_written slot literalWritten written
  · intro name unknown front back before after text other written otherWritten
    have ignored : IsIgnored (some name, .number numeral) := ⟨name, rfl, unknown⟩
    have same : parse source other = parse source text :=
      parse_eq_of_statesSame source (.inserted (.between front ignored)) written otherWritten
    refine ⟨same, ?_⟩
    rw [same]
    exact parse_ne_malformed_iff written

/-- The smallest level is read, and the number after the greatest offset is not. -/
theorem parse_number_of_limits :
    (∃ diagnostics, parse .absent "[[-2147483648,null,\"m\"]]" = .ok diagnostics) ∧
      parse .absent "[[1,18446744073709551616,\"m\"]]" = .error .malformed := by
  constructor
  · let slot : Slot .level := .item [] [.null, .string (some "m")] rfl
    have literalWritten : (Json.Numeral.ofInt (-2147483648)).WrittenAs "-2147483648".toList :=
      Json.Numeral.writtenAs_ofInt_iff.mpr rfl
    have written : (Json.array ([] ++ slot.fill (.ofInt (-2147483648)) :: [])).WrittenAs
        "[[-2147483648,null,\"m\"]]".toList := Json.parse?_eq_some_iff.mp (by cbv)
    have range : Field.level.Range (-2147483648) := ⟨by decide, by decide⟩
    have sound : slot.IsSound := by
      refine .item (.inl rfl) (by simp) ?_
      simp [Field.all, Field.index, Field.Accepts]
    have reads := (parse_number .absent _ _ literalWritten).2.1 .level slot [] [] _ written
    have formed := reads.formed.mpr ⟨⟨_, rfl, range⟩, sound, by simp⟩
    refine reads.read.mpr ⟨formed, ?_⟩
    simp [gives_array_iff, slot, Slot.fill, Field.index]
  · let slot : Slot .offset := .item [.ofInt 1] [.string (some "m")] rfl
    have literalWritten :
        (Json.Numeral.ofInt 18446744073709551616).WrittenAs "18446744073709551616".toList :=
      Json.Numeral.writtenAs_ofInt_iff.mpr rfl
    have written : (Json.array ([] ++ slot.fill (.ofInt 18446744073709551616) :: [])).WrittenAs
        "[[1,18446744073709551616,\"m\"]]".toList := Json.parse?_eq_some_iff.mp (by cbv)
    have reads := (parse_number .absent _ _ literalWritten).2.1 .offset slot [] [] _ written
    by_contra formed
    obtain ⟨⟨n, same, nonnegative, bound⟩, -⟩ := reads.formed.mp formed
    have integer := (Json.Numeral.eq_ofInt_iff literalWritten).mpr same
    have magnitude : 18446744073709551616 = n.natAbs := congrArg Json.Numeral.magnitude integer
    omega

end Replay

end DiagnosticRelay
