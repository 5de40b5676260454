import DiagnosticRelay.CommandLine.Arguments
import Mathlib.Data.List.TakeWhile

/-!
# Written items

An item of a report is written as one argument or two: the option for the settings has five
spellings, and in two of them its path is an argument of its own. The main statement is that
`Item.ofArguments` reads back the items of every list that is written in this way, whatever follows.
-/

namespace DiagnosticRelay.CommandLine

/-! ## What may be written -/

/-- A path that begins neither like an option nor like a value behind its equals sign. -/
def IsPath (path : String) : Prop :=
  ∃ c cs, path.toList = c :: cs ∧ c ≠ '-' ∧ c ≠ '='

/-- An argument that is no option: a dash alone, or a text without a dash in front. -/
def IsPlain (text : String) : Prop :=
  ∀ c cs, text.toList ≠ '-' :: c :: cs

/-- The long names of the options of a report. The last one asks for a help text. -/
def longNames : List String :=
  ["explain", "explain-once", "no-source", "unresolved", "config", "help"]

/-- An option that a report does not have. What stands behind an equals sign is not part of a long
name, and two dashes without a name are no option. The short names are those for the settings and
for a help text. -/
inductive IsUnknownOption : String → Prop where
  | long {name : List Char} (named : name ≠ []) (noValue : '=' ∉ name)
      (unknown : .ofList name ∉ longNames) : IsUnknownOption (.ofList ('-' :: '-' :: name))
  | longValue {name value : List Char} (noValue : '=' ∉ name)
      (unknown : .ofList name ∉ longNames) :
      IsUnknownOption (.ofList ('-' :: '-' :: (name ++ '=' :: value)))
  | short {c : Char} {rest : List Char} (unknown : c ∉ ['-', 'c', 'h']) :
      IsUnknownOption (.ofList ('-' :: c :: rest))

namespace Item

/-- The ways to write an item of a report. -/
inductive WrittenAs : Item → List String → Prop where
  | plain {path : String} (isPath : IsPath path) : WrittenAs (.plain path) [path]
  | flag (switch : Flag) : WrittenAs (.flag switch) ["--" ++ switch.name]
  | short {path : String} (isPath : IsPath path) : WrittenAs (.settings path) ["-c", path]
  | shortJoined {path : String} (isPath : IsPath path) :
      WrittenAs (.settings path) ["-c" ++ path]
  | shortEquals {path : String} (isPath : IsPath path) :
      WrittenAs (.settings path) ["-c=" ++ path]
  | long {path : String} (isPath : IsPath path) : WrittenAs (.settings path) ["--config", path]
  | longEquals {path : String} (isPath : IsPath path) :
      WrittenAs (.settings path) ["--config=" ++ path]

/-- The ways to write items one after the other. -/
inductive AllWrittenAs : List Item → List String → Prop where
  | nil : AllWrittenAs [] []
  | cons {item : Item} {items : List Item} {text texts : List String} (head : item.WrittenAs text)
      (tail : AllWrittenAs items texts) : AllWrittenAs (item :: items) (text ++ texts)

end Item

/-! ## Reading items -/

theorem IsPath.isPlain {path : String} (isPath : IsPath path) : IsPlain path := by
  obtain ⟨c, cs, begins, noDash, -⟩ := isPath
  rintro _ _ dash
  rw [begins, List.cons.injEq] at dash
  exact noDash dash.1

theorem IsPath.ne_empty {path : String} (isPath : IsPath path) : path ≠ "" := by
  rintro rfl
  obtain ⟨c, cs, begins, -⟩ := isPath
  cases begins

theorem isPlain_iff {text : String} : IsPlain text ↔ Item.looksLikeOption text = false := by
  unfold Item.looksLikeOption
  constructor
  · intro isPlain
    split
    · rename_i c cs dash
      exact absurd dash (isPlain c cs)
    · rfl
  · intro plain c cs dash
    simp [dash] at plain

namespace Item

variable {item : Item} {option argument path : String} {name : List Char}

/-- The item that an argument is on its own. -/
def ofArgument (argument : String) : Except UsageError Item :=
  match argument.toList with
  | '-' :: '-' :: body => ofLong (cutValue body).1 (cutValue body).2
  | '-' :: 'c' :: body => ofPath (shortValue body)
  | '-' :: _ :: _ => .error (.unknownOption argument)
  | _ => .ok (plain argument)

theorem ofArguments_cons (noEnd : argument ≠ "--") (whole : argument ≠ "-c" ∧ argument ≠ "--config")
    (rest : List String) :
    ofArguments (argument :: rest) =
      (ofArgument argument).bind fun item => (ofArguments rest).map (item :: ·) := by
  have noPair : ¬(argument = "-c" ∨ argument = "--config") := by
    rintro (short | long)
    · exact whole.1 short
    · exact whole.2 long
  rw [ofArguments.eq_def]
  simp only [if_neg noEnd, if_neg noPair]
  fun_cases ofArgument argument with
  | case1 body letters | case2 body letters =>
    rw [letters]
    rfl
  | case3 c body noDash noSettings letters =>
    simp only [letters]
    rfl
  | case4 noDash noSettings noOption =>
    simp only
    rfl

/-- The option for the settings takes the next argument, unless that looks like an option. -/
theorem ofArguments_pair (isOption : option = "-c" ∨ option = "--config") (rest : List String) :
    ofArguments (option :: argument :: rest) =
      if looksLikeOption argument then .error .missingPath
      else (ofPath argument).bind fun item => (ofArguments rest).map (item :: ·) := by
  have noEnd : option ≠ "--" := by
    rintro rfl
    exact absurd isOption (by decide)
  rw [ofArguments.eq_def]
  simp only [if_neg noEnd, if_pos isOption]
  rfl

theorem ofPath_of_isPath (isPath : IsPath path) : ofPath path = .ok (.settings path) := by
  simp [ofPath, isPath.ne_empty]

theorem shortValue_of_isPath (isPath : IsPath path) : shortValue path.toList = path := by
  obtain ⟨c, cs, begins, -, noEquals⟩ := isPath
  rw [shortValue, String.ofList_toList]
  rintro _ equals
  rw [begins, List.cons.injEq] at equals
  exact noEquals equals.1

theorem forall_ne_equals (noValue : '=' ∉ name) : ∀ c ∈ name, (c != '=') = true := by
  intro c member
  rw [bne_iff_ne]
  rintro rfl
  exact noValue member

theorem cutValue_of_notMem (noValue : '=' ∉ name) : cutValue name = (.ofList name, none) := by
  rw [cutValue, List.dropWhile_eq_nil_iff.mpr (forall_ne_equals noValue)]

theorem cutValue_append (noValue : '=' ∉ name) (value : List Char) :
    cutValue (name ++ '=' :: value) = (.ofList name, some (.ofList value)) := by
  have all := forall_ne_equals noValue
  rw [cutValue, List.dropWhile_append_of_pos all, List.takeWhile_append_of_pos all]
  simp

/-- The option for the settings in front of a path. -/
theorem ofArguments_path (isOption : option = "-c" ∨ option = "--config") (isPath : IsPath path)
    (rest : List String) :
    ofArguments (option :: path :: rest) = (ofArguments rest).map (.settings path :: ·) := by
  have plain := isPlain_iff.mp isPath.isPlain
  rw [ofArguments_pair isOption, plain, ofPath_of_isPath isPath]
  rfl

/-- An argument that is an item on its own stands for it in every list. -/
theorem ofArguments_of_ok (reads : ofArgument argument = .ok item) (rest : List String) :
    ofArguments (argument :: rest) = (ofArguments rest).map (item :: ·) := by
  have noEnd : argument ≠ "--" := by
    rintro rfl
    cases reads
  have whole : argument ≠ "-c" ∧ argument ≠ "--config" := by
    refine ⟨?_, ?_⟩ <;> rintro rfl <;> cases reads
  rw [ofArguments_cons noEnd whole, reads]
  rfl

/-! ### Items on their own -/

theorem ofArgument_plain (isPlain : IsPlain path) : ofArgument path = .ok (.plain path) := by
  unfold ofArgument
  split
  · rename_i body dash
    exact absurd dash (isPlain _ body)
  · rename_i body dash
    exact absurd dash (isPlain _ body)
  · rename_i c body _ _ dash
    exact absurd dash (isPlain c body)
  · rfl

theorem ofArgument_flag (switch : Flag) :
    ofArgument ("--" ++ switch.name) = .ok (.flag switch) := by
  cases switch <;> decide

theorem ofArgument_shortJoined (isPath : IsPath path) :
    ofArgument ("-c" ++ path) = .ok (.settings path) := by
  have letters : ("-c" ++ path).toList = '-' :: 'c' :: path.toList := by simp
  rw [ofArgument, letters]
  simp only [shortValue_of_isPath isPath, ofPath_of_isPath isPath]

theorem ofArgument_shortEquals (isPath : IsPath path) :
    ofArgument ("-c=" ++ path) = .ok (.settings path) := by
  have letters : ("-c=" ++ path).toList = '-' :: 'c' :: '=' :: path.toList := by simp
  rw [ofArgument, letters]
  simp only [shortValue, String.ofList_toList, ofPath_of_isPath isPath]

theorem ofArgument_longEquals (isPath : IsPath path) :
    ofArgument ("--config=" ++ path) = .ok (.settings path) := by
  have letters : ("--config=" ++ path).toList =
      '-' :: '-' :: ("config".toList ++ '=' :: path.toList) := by
    simp
  have cut := cutValue_append (show '=' ∉ "config".toList by decide) path.toList
  have noFlag : Flag.ofName? "config" = none := by decide
  rw [ofArgument, letters]
  simp only [cut, String.ofList_toList, ofLong, noFlag, if_true, ofPath_of_isPath isPath]

theorem ofName?_eq_none {name : String} (unknown : name ∉ longNames) :
    Flag.ofName? name = none := by
  rw [Flag.ofName?, List.find?_eq_none]
  intro switch _ named
  have known : switch.name ∈ longNames := by cases switch <;> decide
  rw [decide_eq_true_eq] at named
  exact unknown (named ▸ known)

theorem ofArgument_unknown (isUnknown : IsUnknownOption option) :
    ∃ error, ofArgument option = .error error := by
  cases isUnknown with
  | long named noValue unknown =>
    rw [ofArgument, String.toList_ofList]
    simp only [cutValue_of_notMem noValue, ofLong, ofName?_eq_none unknown]
    exact ⟨_, rfl⟩
  | longValue noValue unknown =>
    rw [ofArgument, String.toList_ofList]
    simp only [cutValue_append noValue, ofLong, ofName?_eq_none unknown]
    rw [if_neg]
    · exact ⟨_, rfl⟩
    · intro config
      rw [config] at unknown
      exact unknown (by decide)
  | @short c rest unknown =>
    obtain ⟨noDash, noSettings, -⟩ : c ≠ '-' ∧ c ≠ 'c' ∧ c ≠ 'h' := by simpa using unknown
    rw [ofArgument, String.toList_ofList]
    split <;> simp_all

/-- The arguments that are read in another way than on their own are no unknown options. -/
theorem ne_of_isUnknownOption (isUnknown : IsUnknownOption option) :
    option ≠ "--" ∧ option ≠ "-c" ∧ option ≠ "--config" := by
  simp only [ne_eq, ← String.toList_inj]
  cases isUnknown with
  | @long name named noValue unknown =>
    have noConfig : name ≠ "config".toList := by
      rintro rfl
      exact unknown (by decide)
    simpa [named] using noConfig
  | @longValue name value noValue unknown =>
    have noConfig : name ++ '=' :: value ≠ "config".toList := by
      intro same
      have equals : '=' ∈ "config".toList := by simp [← same]
      exact absurd equals (by decide)
    simpa using noConfig
  | @short c rest unknown =>
    obtain ⟨noDash, noSettings, -⟩ : c ≠ '-' ∧ c ≠ 'c' ∧ c ≠ 'h' := by simpa using unknown
    simp [noDash, noSettings]

theorem ofArguments_unknown (isUnknown : IsUnknownOption option) (rest : List String) :
    ∃ error, ofArguments ([option] ++ rest) = .error error := by
  obtain ⟨noEnd, whole⟩ := ne_of_isUnknownOption isUnknown
  obtain ⟨error, refused⟩ := ofArgument_unknown isUnknown
  refine ⟨error, ?_⟩
  rw [List.singleton_append, ofArguments_cons noEnd whole, refused]
  rfl

theorem WrittenAs.ofArguments_append {text : List String} (written : item.WrittenAs text)
    (rest : List String) : ofArguments (text ++ rest) = (ofArguments rest).map (item :: ·) := by
  cases written with
  | plain isPath => exact ofArguments_of_ok (ofArgument_plain isPath.isPlain) rest
  | flag switch => exact ofArguments_of_ok (ofArgument_flag switch) rest
  | short isPath => exact ofArguments_path (.inl rfl) isPath rest
  | shortJoined isPath => exact ofArguments_of_ok (ofArgument_shortJoined isPath) rest
  | shortEquals isPath => exact ofArguments_of_ok (ofArgument_shortEquals isPath) rest
  | long isPath => exact ofArguments_path (.inr rfl) isPath rest
  | longEquals isPath => exact ofArguments_of_ok (ofArgument_longEquals isPath) rest

/-! ### Items one after the other -/

variable {items : List Item} {text arguments before after : List String}

theorem AllWrittenAs.ofArguments_append (written : AllWrittenAs items text) (rest : List String) :
    ofArguments (text ++ rest) = (ofArguments rest).map (items ++ ·) := by
  induction written with
  | nil =>
    rw [List.nil_append]
    cases ofArguments rest <;> rfl
  | cons head tail ih =>
    rw [List.append_assoc, head.ofArguments_append, ih]
    cases ofArguments rest <;> rfl

theorem AllWrittenAs.ofArguments_eq (written : AllWrittenAs items text) :
    ofArguments text = .ok items := by
  have read := written.ofArguments_append []
  rw [List.append_nil] at read
  rw [read, ofArguments]
  exact congrArg Except.ok (List.append_nil items)

theorem AllWrittenAs.append {items' : List Item} {text' : List String}
    (written : AllWrittenAs items text) (written' : AllWrittenAs items' text') :
    AllWrittenAs (items ++ items') (text ++ text') := by
  induction written with
  | nil => exact written'
  | cons head tail ih =>
    rw [List.cons_append, List.append_assoc]
    exact .cons head ih

theorem AllWrittenAs.singleton (written : item.WrittenAs text) : AllWrittenAs [item] text := by
  simpa using AllWrittenAs.cons written .nil

theorem AllWrittenAs.ne_empty (written : AllWrittenAs items text) (member : .plain path ∈ items) :
    path ≠ "" := by
  induction written with
  | nil => cases member
  | cons head tail ih =>
    obtain rfl | others := List.mem_cons.mp member
    · cases head with
      | plain isPath => exact isPath.ne_empty
    · exact ih others

/-- A place among the arguments of items: between two items, or between the option for the settings
and its path. -/
inductive Divides : List Item → List String → List String → Prop where
  | between {front back : List Item} {before after : List String}
      (frontWritten : AllWrittenAs front before) (backWritten : AllWrittenAs back after) :
      Divides (front ++ back) before after
  | within {front back : List Item} {option path : String} {before after : List String}
      (isOption : option = "-c" ∨ option = "--config") (isPath : IsPath path)
      (frontWritten : AllWrittenAs front before) (backWritten : AllWrittenAs back after) :
      Divides (front ++ .settings path :: back) (before ++ [option]) (path :: after)

/-- Only the option for the settings can be written as two arguments. -/
theorem WrittenAs.exists_pair (written : item.WrittenAs (before ++ after)) (begun : before ≠ [])
    (unfinished : after ≠ []) :
    ∃ option path, (option = "-c" ∨ option = "--config") ∧ IsPath path ∧
      item = .settings path ∧ before = [option] ∧ after = [path] := by
  obtain ⟨first, more, rfl⟩ := List.exists_cons_of_ne_nil begun
  obtain ⟨last, rest, rfl⟩ := List.exists_cons_of_ne_nil unfinished
  generalize cut : first :: more ++ last :: rest = text at written
  cases written with
  | plain | flag | shortJoined | shortEquals | longEquals =>
    simp [List.append_eq_nil_iff] at cut
  | short isPath =>
    obtain ⟨rfl, rfl, rfl, rfl⟩ : first = "-c" ∧ more = [] ∧ last = _ ∧ rest = [] := by
      simpa [List.append_eq_singleton_iff] using cut
    exact ⟨_, _, .inl rfl, isPath, rfl, rfl, rfl⟩
  | long isPath =>
    obtain ⟨rfl, rfl, rfl, rfl⟩ : first = "--config" ∧ more = [] ∧ last = _ ∧ rest = [] := by
      simpa [List.append_eq_singleton_iff] using cut
    exact ⟨_, _, .inr rfl, isPath, rfl, rfl, rfl⟩

theorem Divides.cons (head : item.WrittenAs text) (divides : Divides items before after) :
    Divides (item :: items) (text ++ before) after := by
  cases divides with
  | between frontWritten backWritten => exact .between (.cons head frontWritten) backWritten
  | within isOption isPath frontWritten backWritten =>
    rw [← List.append_assoc]
    exact .within isOption isPath (.cons head frontWritten) backWritten

/-- There are no other places. -/
theorem AllWrittenAs.divides (written : AllWrittenAs items arguments)
    (cut : arguments = before ++ after) : Divides items before after := by
  induction written generalizing before with
  | nil =>
    obtain ⟨rfl, rfl⟩ := List.nil_eq_append_iff.mp cut
    exact .between .nil .nil
  | @cons item items text texts head tail ih =>
    obtain ⟨more, rfl, others⟩ | ⟨more, rfl, rfl⟩ := List.append_eq_append_iff.mp cut
    · exact (ih others).cons head
    · by_cases begun : before = []
      · subst begun
        exact .between .nil (.cons head tail)
      · by_cases finished : more = []
        · subst finished
          rw [List.append_nil] at head
          exact .between (.singleton head) tail
        · obtain ⟨option, path, isOption, isPath, rfl, rfl, rfl⟩ := head.exists_pair begun finished
          exact .within isOption isPath .nil tail

end Item

end DiagnosticRelay.CommandLine
