import DiagnosticRelay.Proofs.Replay.Form

/-!
# Names of levels

Once the records of a text are known, the only thing that may still go wrong is a name that is not
the name of a level. The first such name fails the whole replay, whatever stands beside it and after
it; without one every record becomes a diagnostic. Letters are compared, and names are put in lower
case for the message, as ASCII has them: a letter that ASCII does not have is only itself.
-/

namespace DiagnosticRelay

/-! ## Lower case -/

/-- A letter in lower case. Only the capital letters of ASCII have another one. -/
inductive LowersTo : Char → Char → Prop where
  | capital {letter small : Char} (isCapital : 'A' ≤ letter ∧ letter ≤ 'Z')
      (distance : small.toNat = letter.toNat + 32) : LowersTo letter small
  | other {letter : Char} (notCapital : ¬('A' ≤ letter ∧ letter ≤ 'Z')) : LowersTo letter letter

theorem toNat_toLower {letter : Char} (isCapital : 'A' ≤ letter ∧ letter ≤ 'Z') :
    letter.toLower.toNat = letter.toNat + 32 := by
  have bound : letter.toNat ≤ 90 := isCapital.2
  have shifted : letter.toLower.toNat = (letter.val + 32).toNat :=
    congrArg Char.toNat (dif_pos isCapital)
  rw [shifted, UInt32.toNat_add]
  exact Nat.mod_eq_of_lt (show letter.toNat + 32 < 2 ^ 32 by omega)

theorem toLower_of_not_capital {letter : Char} (notCapital : ¬('A' ≤ letter ∧ letter ≤ 'Z')) :
    letter.toLower = letter :=
  dif_neg notCapital

theorem lowersTo_iff {letter small : Char} : LowersTo letter small ↔ letter.toLower = small := by
  constructor
  · rintro (⟨isCapital, distance⟩ | notCapital)
    · apply Char.toNat_inj.mp
      rw [toNat_toLower isCapital, distance]
    · exact toLower_of_not_capital notCapital
  · rintro rfl
    by_cases isCapital : 'A' ≤ letter ∧ letter ≤ 'Z'
    · exact .capital isCapital (toNat_toLower isCapital)
    · rw [toLower_of_not_capital isCapital]
      exact .other isCapital

/-- The first text is the second one in lower case. -/
def IsLowerCaseOf (lower text : String) : Prop :=
  List.Forall₂ LowersTo text.toList lower.toList

theorem isLowerCaseOf_iff {lower text : String} :
    IsLowerCaseOf lower text ↔ lower = text.map Char.toLower := by
  have pointwise : LowersTo = fun letter small => letter.toLower = small :=
    funext₂ fun _ _ => propext lowersTo_iff
  have mapped : IsLowerCaseOf lower text ↔ text.toList.map Char.toLower = lower.toList := by
    rw [IsLowerCaseOf, pointwise, ← List.forall₂_map_left_iff, List.forall₂_eq_eq_eq]
  rw [mapped, ← String.toList_inj, String.toList_map, eq_comm]

namespace Replay

/-! ## Names that are known -/

/-- The names of levels. -/
def levelNames : List String := ["info", "warning", "warn", "error"]

/-- The name is the name of a level, in which the case of ASCII letters does not matter. -/
def IsLevelName (name : String) : Prop :=
  ∃ word ∈ levelNames, IsLowerCaseOf word name

theorem isLevelName_iff {name : String} :
    IsLevelName name ↔ ∃ severity : Severity, severity.IsNamed name := by
  simp only [IsLevelName, levelNames, isLowerCaseOf_iff, Severity.IsNamed]
  constructor
  · rintro ⟨word, member, rfl⟩
    simp only [List.mem_cons, List.not_mem_nil, or_false] at member
    obtain info | warning | warn | error := member
    · exact ⟨.info, .inl info⟩
    · exact ⟨.warning, .inl warning⟩
    · exact ⟨.warning, .inr ⟨rfl, warn⟩⟩
    · exact ⟨.error, .inl error⟩
  · rintro ⟨severity, tag | ⟨rfl, warn⟩⟩
    · refine ⟨severity.tag, ?_, tag.symm⟩
      cases severity <;> simp [Severity.tag]
    · exact ⟨"warn", by simp, warn.symm⟩

/-- The level of the record is a code or the name of a level. -/
theorem Record.isKnown_iff {record : Record} :
    record.IsKnown ↔ ∀ name, record.level = .name name → IsLevelName name := by
  simp only [IsKnown, isLevelName_iff]

theorem Record.code_of_unknown {record : Record} {name : String} (level : record.level = .name name)
    (unknown : ¬IsLevelName name) : record.code = .error ⟨name.map Char.toLower⟩ := by
  cases read : Severity.ofName name with
  | ok severity =>
    have known := isLevelName_iff.mpr ⟨severity, Severity.ofName_eq_ok_iff.mp read⟩
    exact absurd known unknown
  | error bad =>
    have lower : bad = ⟨name.map Char.toLower⟩ := by
      simp only [Severity.ofName] at read
      split at read
      · cases read
      · split at read
        · cases read
        · cases read
          rfl
    simp only [code, level, read, lower]
    rfl

/-! ## The first unknown name -/

/-- At the index stands a name that is not the name of a level, and there is none before it. -/
structure IsFirstUnknown (records : List Record) (index : Nat) (name : String) : Prop where
  found : records[index]?.map Record.level = some (.name name)
  unknown : ¬IsLevelName name
  earlier : ∀ record ∈ records.take index, ∀ other, record.level = .name other → IsLevelName other

variable {records : List Record} {index : Nat} {name : String}

theorem exists_isFirstUnknown (unknown : ¬∀ record ∈ records, record.IsKnown) :
    ∃ index name, IsFirstUnknown records index name := by
  induction records with
  | nil => exact absurd (fun _ member => nomatch member) unknown
  | cons record rest ih =>
    by_cases known : record.IsKnown
    · obtain ⟨index, name, first⟩ := ih fun others =>
        unknown (List.forall_mem_cons.mpr ⟨known, others⟩)
      refine ⟨index + 1, name, first.found, first.unknown, ?_⟩
      exact List.forall_mem_cons.mpr ⟨Record.isKnown_iff.mp known, first.earlier⟩
    · rw [Record.isKnown_iff] at known
      push Not at known
      obtain ⟨name, level, notName⟩ := known
      exact ⟨0, name, congrArg some level, notName, fun _ member => nomatch member⟩

/-- Resolving goes on up to the first unknown name, which it reports with its number. -/
theorem resolve_of_isFirstUnknown (source : Source) (number : Nat)
    (first : IsFirstUnknown records index name) :
    resolve source number records =
      .error (.badRecord (number + index) ⟨name.map Char.toLower⟩) := by
  induction records generalizing number index with
  | nil => cases first.found
  | cons record rest ih =>
    cases index with
    | zero =>
      have level : record.level = .name name := Option.some.inj first.found
      rw [resolve, Record.diagnostic, Record.code_of_unknown level first.unknown]
      rfl
    | succ index =>
      obtain ⟨known, earlier⟩ := List.forall_mem_cons.mp first.earlier
      obtain ⟨diagnostic, resolved, -⟩ :=
        record.diagnostic_of_isKnown source (Record.isKnown_iff.mpr known)
      have later := ih (number + 1) ⟨first.found, first.unknown, earlier⟩
      rw [resolve, resolved, later, Nat.add_right_comm]
      rfl

/-! ## Two replays -/

/-- Two results that are the same failure, or values that stand in the relation. -/
inductive SameOutcome {ε α : Type} (R : α → α → Prop) : Except ε α → Except ε α → Prop where
  | error (failure : ε) : SameOutcome R (.error failure) (.error failure)
  | ok {value value' : α} (related : R value value') : SameOutcome R (.ok value) (.ok value')

theorem SameOutcome.error_or_ok {ε α : Type} {R : α → α → Prop} {result result' : Except ε α}
    (same : SameOutcome R result result') :
    (∃ failure, result = .error failure ∧ result' = .error failure) ∨
      ∃ value value', result = .ok value ∧ result' = .ok value' ∧ R value value' := by
  cases same with
  | error failure => exact .inl ⟨failure, rfl, rfl⟩
  | ok related => exact .inr ⟨_, _, rfl, rfl, related⟩

theorem SameOutcome.map_eq {ε α β : Type} {R : α → α → Prop} {result result' : Except ε α}
    (same : SameOutcome R result result') {f : α → β}
    (congr : ∀ value value', R value value' → f value' = f value) :
    result'.map f = result.map f := by
  cases same with
  | error failure => rfl
  | ok related => exact congrArg Except.ok (congr _ _ related)

theorem Record.code_congr {record record' : Record} (level : record'.level = record.level) :
    record'.code = record.code := by
  rw [Record.code, level, Record.code]

/-- Records of the same outcome, one by one, are resolved with the same outcome. -/
theorem resolve_sameOutcome {R : Diagnostic → Diagnostic → Prop} {source source' : Source}
    {records' : List Record} (number : Nat)
    (same : List.Forall₂ (fun record record' =>
      SameOutcome R (record.diagnostic source) (record'.diagnostic source')) records records') :
    SameOutcome (List.Forall₂ R) (resolve source number records)
      (resolve source' number records') := by
  induction same generalizing number with
  | nil => exact .ok .nil
  | @cons record record' rest rest' head _ ih =>
    have others := ih (number + 1)
    rw [resolve, resolve]
    generalize record.diagnostic source = first, record'.diagnostic source' = first' at head ⊢
    generalize resolve source (number + 1) rest = later, resolve source' (number + 1) rest' = later'
      at others ⊢
    cases head with
    | error unknown => exact .error _
    | ok related =>
      cases others with
      | error failure => exact .error failure
      | ok others => exact .ok (.cons related others)

/-! ## The case of names -/

/-- The levels are equal, or names that differ in nothing but the case of ASCII letters. -/
inductive Level.EqUpToCase : Level → Level → Prop where
  | code (code : Int) : EqUpToCase (.code code) (.code code)
  | name {name other lower : String} (lowered : IsLowerCaseOf lower name)
      (otherLowered : IsLowerCaseOf lower other) : EqUpToCase (.name name) (.name other)

/-- The records differ in nothing but the case of the names of their levels. -/
structure Record.EqUpToCase (record other : Record) : Prop where
  level : record.level.EqUpToCase other.level
  offset : record.offset? = other.offset?
  message : record.message = other.message
  explanation : record.explanation? = other.explanation?

theorem Severity.ofName_eq_of_isLowerCaseOf {lower other : String}
    (lowered : IsLowerCaseOf lower name) (otherLowered : IsLowerCaseOf lower other) :
    Severity.ofName name = Severity.ofName other := by
  rw [isLowerCaseOf_iff] at lowered otherLowered
  simp only [Severity.ofName, ← lowered, ← otherLowered]

theorem Record.EqUpToCase.diagnostic_eq {record other : Record} (same : record.EqUpToCase other)
    (source : Source) : record.diagnostic source = other.diagnostic source := by
  have code : record.code = other.code := by
    obtain ⟨_, _, _, _⟩ := record
    obtain ⟨_, _, _, _⟩ := other
    obtain ⟨level, -, -, -⟩ := same
    cases level with
    | code => rfl
    | name lowered otherLowered =>
      simp only [Record.code, Severity.ofName_eq_of_isLowerCaseOf lowered otherLowered]
  simp only [Record.diagnostic, code, same.offset, same.message, same.explanation]

theorem resolve_eq_of_eqUpToCase {others : List Record} (source : Source) (number : Nat)
    (same : List.Forall₂ Record.EqUpToCase records others) :
    resolve source number records = resolve source number others := by
  induction same generalizing number with
  | nil => rfl
  | cons head _ ih => rw [resolve, resolve, head.diagnostic_eq source, ih]

/-! ## The diagnostics of a text -/

variable {text : String} {source : Source}

theorem parse_of_holdsRecords (holds : HoldsRecords text records) :
    parse source text = resolve source 1 records := by
  rw [parse, records?_eq_some_iff.mpr holds]

theorem parse_of_unknown (source : Source) (holds : HoldsRecords text records)
    (unknown : ¬∀ record ∈ records, record.IsKnown) :
    ∃ index name, IsFirstUnknown records index name ∧
      parse source text = .error (.badRecord (index + 1) ⟨name.map Char.toLower⟩) := by
  obtain ⟨index, name, first⟩ := exists_isFirstUnknown unknown
  refine ⟨index, name, first, ?_⟩
  rw [parse_of_holdsRecords holds, resolve_of_isFirstUnknown source 1 first, Nat.add_comm 1 index]

theorem parse_ok_iff (holds : HoldsRecords text records) :
    (∃ diagnostics, parse source text = .ok diagnostics) ↔ ∀ record ∈ records, record.IsKnown := by
  constructor
  · rintro ⟨diagnostics, parsed⟩
    by_contra unknown
    obtain ⟨index, name, -, failed⟩ := parse_of_unknown source holds unknown
    rw [parsed] at failed
    cases failed
  · intro known
    obtain ⟨diagnostics, resolved, -⟩ := resolve_of_isKnown source 1 known
    exact ⟨diagnostics, (parse_of_holdsRecords holds).trans resolved⟩

/-- The diagnostics of a text are those of the records that it holds. -/
theorem holdsRecords_of_parse {diagnostics : List Diagnostic}
    (parsed : parse source text = .ok diagnostics) :
    ∃ records, HoldsRecords text records ∧ (∀ record ∈ records, record.IsKnown) ∧
      List.Forall₂ (fun record => record.IsRecordOf source) records diagnostics := by
  have formed : parse source text ≠ .error .malformed := by
    rw [parsed]
    rintro ⟨⟩
  rw [Ne, parse_eq_malformed_iff, not_not] at formed
  obtain ⟨records, holds⟩ := formed
  have known := (parse_ok_iff holds).mp ⟨diagnostics, parsed⟩
  obtain ⟨resolved, ok, recorded⟩ := resolve_of_isKnown source 1 known
  rw [parse_of_holdsRecords holds, ok] at parsed
  cases parsed
  exact ⟨records, holds, known, recorded⟩

/-- A text that holds records is all or nothing: either every name among the levels is known and
each record becomes its diagnostic, or the first unknown one is reported by the number of its record
and in lower case. A text that writes no array, or one with a value that is not a record, is
malformed, whatever its names are. Nothing depends on the case of names. -/
theorem parse_by_first_unknown (source : Source) (text : String) :
    (∀ records, HoldsRecords text records →
      ((∃ diagnostics, parse source text = .ok diagnostics) ↔
        ∀ record ∈ records, ∀ name, record.level = .name name → IsLevelName name) ∧
      (∀ diagnostics, parse source text = .ok diagnostics →
        List.Forall₂ (fun record => record.IsRecordOf source) records diagnostics) ∧
      ((∃ record ∈ records, ∃ name, record.level = .name name ∧ ¬IsLevelName name) →
        ∃ index name lower, IsFirstUnknown records index name ∧ IsLowerCaseOf lower name ∧
          parse source text = .error (.badRecord (index + 1) ⟨lower⟩) ∧
          (Failure.badRecord (index + 1) ⟨lower⟩).message =
            "In diagnostic #" ++ toString (index + 1) ++ ": " ++
              ("unknown diagnostic level: " ++ lower))) ∧
    (parse source text = .error .malformed ↔
      ∀ items, (Json.array items).WrittenAs text.toList →
        ∃ item ∈ items, ∀ record : Record, ¬record.HasForm item) ∧
    ∀ other records others, HoldsRecords text records → HoldsRecords other others →
      List.Forall₂ Record.EqUpToCase records others → parse source text = parse source other := by
  refine ⟨?_, ?_, ?_⟩
  · intro records holds
    refine ⟨?_, ?_, ?_⟩
    · simp only [parse_ok_iff holds, Record.isKnown_iff]
    · intro diagnostics parsed
      have known := (parse_ok_iff holds).mp ⟨diagnostics, parsed⟩
      obtain ⟨resolved, ok, recorded⟩ := resolve_of_isKnown source 1 known
      rw [parse_of_holdsRecords holds, ok] at parsed
      cases parsed
      exact recorded
    · rintro ⟨record, member, name, level, notName⟩
      have unknown : ¬∀ record ∈ records, record.IsKnown := fun known =>
        notName (Record.isKnown_iff.mp (known record member) name level)
      obtain ⟨index, name, first, failed⟩ := parse_of_unknown source holds unknown
      exact ⟨index, name, _, first, isLowerCaseOf_iff.mpr rfl, failed, rfl⟩
  · exact (parse_eq_malformed_iff source).trans not_holdsRecords_iff
  · intro other records others holds otherHolds same
    rw [parse_of_holdsRecords holds, parse_of_holdsRecords otherHolds]
    exact resolve_eq_of_eqUpToCase source 1 same

example :
    let text := "[[\"WARN\", null, \"\"], [\"É FATAL\", null, \"\"], [\"fatal\", null, \"\"]]"
    (parse .absent text).map (fun _ => ()) = .error (.badRecord 2 ⟨"É fatal"⟩) := by
  decide +kernel

end Replay
end DiagnosticRelay
