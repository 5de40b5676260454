import DiagnosticRelay.CommandLine.Run
import DiagnosticRelay.Proofs.CommandLine.Item
import Mathlib.Data.List.Count
import Mathlib.Data.List.Nodup
import Mathlib.Data.List.Perm.Basic

/-!
# Arguments of a report

The options of a report may stand anywhere among its two paths. Every list that is written in this
way is read as the report of its options. One argument too many is a mistake wherever it stands,
also between an option and its path, and so is a path that is missing.
-/

namespace DiagnosticRelay.CommandLine

/-! ## What may be given -/

/-- The switches. -/
def Flag.all : List Flag := [explain, explainOnce, noSource, unresolved]

namespace ReportOptions

/-- Whether a switch is on. -/
def gives (options : ReportOptions) : Flag → Bool
  | .explain => options.explain
  | .explainOnce => options.explainOnce
  | .noSource => options.noSource
  | .unresolved => options.unresolved

/-- The switches that are on, each once, and the path of the settings, if there is one. -/
def optionItems (options : ReportOptions) : List Item :=
  (Flag.all.filter options.gives).map .flag ++ options.settings?.toList.map .settings

/-- The items give exactly the options, in any order but for the two paths. -/
structure Interleaves (options : ReportOptions) (items : List Item) : Prop where
  anyOrder : items.Perm (.plain options.source :: .plain options.replay :: options.optionItems)
  inOrder : [Item.plain options.source, .plain options.replay].Sublist items

/-- What is one too many: another plain argument, a switch or settings that are given already, or an
option that there is not. -/
inductive Exceeds (options : ReportOptions) : List String → Prop where
  | plain {text : String} (isPlain : IsPlain text) : Exceeds options [text]
  | flag {switch : Flag} {text : List String} (given : options.gives switch = true)
      (written : (Item.flag switch).WrittenAs text) : Exceeds options text
  | settings {path : String} {text : List String} (given : options.settings?.isSome = true)
      (written : (Item.settings path).WrittenAs text) : Exceeds options text
  | unknown {option : String} (isUnknown : IsUnknownOption option) : Exceeds options [option]

end ReportOptions

/-- The arguments are a mistake, whatever the files are: nothing is printed, and the exit code is
that of a mistake. -/
def IsMistake (arguments : List String) : Prop :=
  ∀ files, (run files arguments).printed = "" ∧ (run files arguments).exitCode = 2

/-! ## Counting items -/

theorem Flag.mem_all (switch : Flag) : switch ∈ all := by
  cases switch <;> decide

section Counts

variable {items : List Item} {text path : String} {switch : Flag}

@[simp] theorem plainArguments_append (front back : List Item) :
    plainArguments (front ++ back) = plainArguments front ++ plainArguments back :=
  List.filterMap_append

@[simp] theorem plainArguments_plain :
    plainArguments (.plain text :: items) = text :: plainArguments items := rfl

@[simp] theorem plainArguments_settings :
    plainArguments (.settings path :: items) = plainArguments items := rfl

@[simp] theorem settingsPaths_append (front back : List Item) :
    settingsPaths (front ++ back) = settingsPaths front ++ settingsPaths back :=
  List.filterMap_append

@[simp] theorem settingsPaths_settings :
    settingsPaths (.settings path :: items) = path :: settingsPaths items := rfl

end Counts

namespace ReportOptions.Interleaves

variable {options : ReportOptions} {items : List Item} (interleaves : options.Interleaves items)

include interleaves

theorem plainArguments_eq : plainArguments items = [options.source, options.replay] := by
  have canonical : plainArguments (.plain options.source :: .plain options.replay ::
      options.optionItems) = [options.source, options.replay] := by
    simp [plainArguments, optionItems]
  have anyOrder : (plainArguments items).Perm [options.source, options.replay] :=
    canonical ▸ interleaves.anyOrder.filterMap _
  have inOrder : (plainArguments [.plain options.source, .plain options.replay]).Sublist
      (plainArguments items) := interleaves.inOrder.filterMap _
  exact (inOrder.eq_of_length anyOrder.length_eq.symm).symm

theorem length_plainArguments : (plainArguments items).length = 2 :=
  congrArg List.length interleaves.plainArguments_eq

theorem settingsPaths_eq : settingsPaths items = options.settings?.toList := by
  have canonical : settingsPaths (.plain options.source :: .plain options.replay ::
      options.optionItems) = options.settings?.toList := by
    simp [settingsPaths, optionItems]
  have anyOrder : (settingsPaths items).Perm options.settings?.toList :=
    canonical ▸ interleaves.anyOrder.filterMap _
  cases settings : options.settings? with
  | none =>
    rw [settings] at anyOrder
    exact List.perm_nil.mp anyOrder
  | some path =>
    rw [settings] at anyOrder
    exact List.perm_singleton.mp anyOrder

theorem count_flag (switch : Flag) :
    items.count (.flag switch) = if options.gives switch then 1 else 0 := by
  have distinct : (Flag.all.filter options.gives).Nodup := List.Nodup.filter _ (by decide)
  have others : (options.settings?.toList.map Item.settings).count (.flag switch) = 0 := by
    simp [List.count_eq_zero]
  have injective : Function.Injective Item.flag := fun _ _ => Item.flag.inj
  rw [interleaves.anyOrder.count_eq, List.count_cons_of_ne (by simp),
    List.count_cons_of_ne (by simp), optionItems, List.count_append, others,
    List.count_map_of_injective _ _ injective, distinct.count, Nat.add_zero]
  simp only [List.mem_filter, switch.mem_all, true_and]

end ReportOptions.Interleaves

/-! ## Reports of items -/

section Report

variable {options : ReportOptions} {item : Item} {items front back : List Item}
  {arguments before after more : List String} {command : Command}

/-- Items that give options are the report of these. -/
theorem reportOf_eq (interleaves : options.Interleaves items) (source : options.source ≠ "")
    (replay : options.replay ≠ "") : reportOf items = .ok (.report options) := by
  have once : repeatedFlag? items = none := by
    rw [repeatedFlag?, List.find?_eq_none]
    intro switch _
    rw [decide_eq_true_eq, interleaves.count_flag]
    split <;> decide
  have gives (switch : Flag) : given items switch = options.gives switch := by
    rw [Bool.eq_iff_iff, given, List.contains_iff_mem, ← List.count_pos_iff,
      interleaves.count_flag]
    split <;> simp [*]
  have named : (options.source.isEmpty || options.replay.isEmpty) = false := by
    simp [source, replay]
  rw [reportOf, once, interleaves.plainArguments_eq, interleaves.settingsPaths_eq]
  cases settings : options.settings? with
  | none | some =>
    simp only [Option.toList, named, gives]
    cases options
    cases settings
    rfl

/-- What is true of the items of every report. -/
theorem reportOf_eq_ok (accepted : reportOf items = .ok command) :
    (plainArguments items).length = 2 ∧ (settingsPaths items).length ≤ 1 ∧
      ∀ switch, items.count (.flag switch) ≤ 1 := by
  unfold reportOf at accepted
  split at accepted
  · cases accepted
  · cases accepted
  · rename_i once paths atMostOne
    refine ⟨by rw [paths]; rfl, ?_, ?_⟩
    · match settings : settingsPaths items with
      | [] | [_] => simp
      | first :: second :: rest => exact (atMostOne first second rest settings).elim
    · intro switch
      rw [repeatedFlag?, List.find?_eq_none] at once
      have notTwice := once switch switch.mem_all
      rw [decide_eq_true_eq] at notTwice
      exact Nat.le_of_not_lt notTwice
  · cases accepted

theorem positionOf_eq_ok (accepted : positionOf items = .ok command) : items.length = 2 := by
  unfold positionOf at accepted
  split at accepted
  · rfl
  · split at accepted <;> cases accepted

/-! ## One too many -/

namespace ReportOptions

/-- The item is one too many. -/
def ExceedsBy (options : ReportOptions) : Item → Prop
  | .plain _ => True
  | .flag switch => options.gives switch = true
  | .settings _ => options.settings?.isSome = true

/-- What is one too many is read as such an item, or not at all. -/
theorem Exceeds.reads (exceeds : options.Exceeds more) :
    (∃ item, options.ExceedsBy item ∧
      ∀ rest, Item.ofArguments (more ++ rest) = (Item.ofArguments rest).map (item :: ·)) ∨
    ∀ rest, ∃ error, Item.ofArguments (more ++ rest) = .error error := by
  cases exceeds with
  | plain isPlain =>
    exact .inl ⟨.plain _, trivial, Item.ofArguments_of_ok (Item.ofArgument_plain isPlain)⟩
  | flag given written => exact .inl ⟨.flag _, given, written.ofArguments_append⟩
  | settings given written => exact .inl ⟨.settings _, given, written.ofArguments_append⟩
  | unknown isUnknown => exact .inr (Item.ofArguments_unknown isUnknown)

theorem ExceedsBy.reportOf_insert (exceeds : options.ExceedsBy item)
    (interleaves : options.Interleaves (front ++ back)) :
    reportOf (front ++ item :: back) ≠ .ok command := by
  intro accepted
  obtain ⟨two, oneSettings, onceEach⟩ := reportOf_eq_ok accepted
  cases item with
  | plain text =>
    have already := interleaves.length_plainArguments
    simp only [plainArguments_append, plainArguments_plain, List.length_append,
      List.length_cons] at two already
    omega
  | flag switch =>
    have given : options.gives switch = true := exceeds
    have already := interleaves.count_flag switch
    have now := onceEach switch
    rw [if_pos given] at already
    simp only [List.count_append, List.count_cons_self] at already now
    omega
  | settings path =>
    obtain ⟨given, settings⟩ := Option.isSome_iff_exists.mp exceeds
    have already := congrArg List.length interleaves.settingsPaths_eq
    simp only [settings, settingsPaths_append, settingsPaths_settings, List.length_append,
      List.length_cons, Option.toList_some, List.length_nil] at oneSettings already
    omega

/-- What is one too many begins like an option, if it is not a plain argument. -/
theorem Exceeds.plain_or_dash (exceeds : options.Exceeds more) :
    (∃ text, more = [text] ∧ IsPlain text) ∨
      ∃ first rest, more = first :: rest ∧ Item.looksLikeOption first = true := by
  cases exceeds with
  | plain isPlain => exact .inl ⟨_, rfl, isPlain⟩
  | flag given written =>
    cases written with
    | flag => exact .inr ⟨_, _, rfl, by simp [Item.looksLikeOption]⟩
  | settings given written =>
    right
    cases written with
    | short | long => exact ⟨_, _, rfl, by decide⟩
    | shortJoined | shortEquals | longEquals => exact ⟨_, _, rfl, by simp [Item.looksLikeOption]⟩
  | unknown isUnknown =>
    right
    cases isUnknown with
    | long | longValue | short => exact ⟨_, _, rfl, by simp [Item.looksLikeOption]⟩

end ReportOptions

/-! ## Mistakes -/

theorem isMistake_of_parse {error : UsageError} (refused : Command.parse arguments = .error error) :
    IsMistake arguments := by
  intro files
  rw [run, refused]
  exact ⟨rfl, rfl⟩

theorem isMistake_of_forall_ne (refused : ∀ command, Command.parse arguments ≠ .ok command) :
    IsMistake arguments := by
  cases parsed : Command.parse arguments with
  | error error => exact isMistake_of_parse parsed
  | ok command => exact absurd parsed (refused command)

theorem parse_report_eq (arguments : List String) :
    Command.parse ("report" :: arguments) = (Item.ofArguments arguments).bind reportOf := by
  have noVersion : asksForVersion "report" = false := by decide
  rw [Command.parse, noVersion]
  rfl

theorem parse_position_eq (arguments : List String) :
    Command.parse ("position" :: arguments) = (Item.ofArguments arguments).bind positionOf := by
  have noVersion : asksForVersion "position" = false := by decide
  rw [Command.parse, noVersion]
  rfl

theorem parse_unknown {name : String} (noVersion : asksForVersion name = false)
    (noReport : name ≠ "report") (noPosition : name ≠ "position") (arguments : List String) :
    Command.parse (name :: arguments) = .error (.unknownCommand name) := by
  rw [Command.parse, noVersion, if_neg noReport, if_neg noPosition]
  rfl

/-- Without one of its paths, or with a third one, there is no report. -/
theorem isMistake_of_miscounted (read : Item.ofArguments arguments = .ok items)
    (miscounted : (plainArguments items).length ≠ 2) : IsMistake ("report" :: arguments) := by
  refine isMistake_of_forall_ne fun command accepted => ?_
  rw [parse_report_eq, read] at accepted
  exact miscounted (reportOf_eq_ok accepted).1

theorem isMistake_of_error {error : UsageError}
    (refused : Item.ofArguments arguments = .error error) : IsMistake ("report" :: arguments) := by
  refine isMistake_of_forall_ne fun command => ?_
  rw [parse_report_eq, refused]
  rintro ⟨⟩

/-- Between two items, one too many is a mistake. -/
theorem ReportOptions.Exceeds.isMistake_between (exceeds : options.Exceeds more)
    (interleaves : options.Interleaves (front ++ back))
    (frontWritten : Item.AllWrittenAs front before) (backWritten : Item.AllWrittenAs back after) :
    IsMistake ("report" :: (before ++ (more ++ after))) := by
  obtain ⟨item, exceedsBy, reads⟩ | refused := exceeds.reads
  · refine isMistake_of_forall_ne fun command => ?_
    rw [parse_report_eq, frontWritten.ofArguments_append, reads, backWritten.ofArguments_eq]
    exact exceedsBy.reportOf_insert interleaves
  · obtain ⟨error, refused⟩ := refused after
    have read : Item.ofArguments (before ++ (more ++ after)) = .error error := by
      rw [frontWritten.ofArguments_append, refused]
      rfl
    exact isMistake_of_error read

/-- Between the option for the settings and its path, one too many is a mistake. -/
theorem ReportOptions.Exceeds.isMistake_within {option path : String}
    (exceeds : options.Exceeds more)
    (interleaves : options.Interleaves (front ++ .settings path :: back))
    (isOption : option = "-c" ∨ option = "--config") (isPath : IsPath path)
    (frontWritten : Item.AllWrittenAs front before) (backWritten : Item.AllWrittenAs back after) :
    IsMistake ("report" :: (before ++ option :: (more ++ path :: after))) := by
  obtain ⟨text, rfl, isPlain⟩ | ⟨first, rest, rfl, dash⟩ := exceeds.plain_or_dash
  · -- A plain argument is taken for the path of the settings, and then that path is a third one.
    have tail := Item.ofArguments_of_ok (Item.ofArgument_plain isPath.isPlain) after
    have read : Item.ofArguments (before ++ option :: ([text] ++ path :: after)) =
        (Item.ofPath text).map fun item => front ++ item :: .plain path :: back := by
      rw [frontWritten.ofArguments_append, List.singleton_append, Item.ofArguments_pair isOption,
        isPlain_iff.mp isPlain, tail, backWritten.ofArguments_eq]
      cases Item.ofPath text <;> rfl
    by_cases empty : text.isEmpty = true
    · rw [Item.ofPath, if_pos empty] at read
      exact isMistake_of_error read
    · rw [Item.ofPath, if_neg empty] at read
      have already := interleaves.length_plainArguments
      refine isMistake_of_miscounted read ?_
      simp only [plainArguments_append, plainArguments_plain, plainArguments_settings,
        List.length_append, List.length_cons] at already ⊢
      omega
  · have read : Item.ofArguments (before ++ option :: (first :: rest ++ path :: after)) =
        .error .missingPath := by
      rw [frontWritten.ofArguments_append, List.cons_append, Item.ofArguments_pair isOption, dash]
      rfl
    exact isMistake_of_error read

/-- In front of the command, too, one too many is a mistake, unless it asks for the version. -/
theorem ReportOptions.Exceeds.isMistake_front (exceeds : options.Exceeds more)
    (interleaves : options.Interleaves items) (written : Item.AllWrittenAs items arguments)
    (noVersion : ∀ first ∈ more.head?, asksForVersion first = false) :
    IsMistake (more ++ "report" :: arguments) := by
  obtain ⟨text, rfl, -⟩ | ⟨first, rest, rfl, dash⟩ := exceeds.plain_or_dash
  · by_cases report : text = "report"
    · subst report
      have behind : options.Interleaves ([] ++ items) := interleaves
      exact exceeds.isMistake_between behind .nil written
    · by_cases position : text = "position"
      · subst position
        have plain : Item.ofArgument "report" = .ok (.plain "report") := by decide
        refine isMistake_of_forall_ne fun command accepted => ?_
        rw [List.singleton_append, parse_position_eq, Item.ofArguments_of_ok plain,
          written.ofArguments_eq] at accepted
        have two := positionOf_eq_ok accepted
        have atLeast := interleaves.anyOrder.length_eq
        simp only [List.length_cons] at two atLeast
        omega
      · exact isMistake_of_parse (parse_unknown (noVersion text rfl) report position _)
  · have noReport : first ≠ "report" := by
      rintro rfl
      cases dash
    have noPosition : first ≠ "position" := by
      rintro rfl
      cases dash
    exact isMistake_of_parse (parse_unknown (noVersion first rfl) noReport noPosition _)

/-- A path that is missing is a mistake. -/
theorem isMistake_of_missing {path : String}
    (interleaves : options.Interleaves (front ++ .plain path :: back))
    (frontWritten : Item.AllWrittenAs front before) (backWritten : Item.AllWrittenAs back after) :
    IsMistake ("report" :: (before ++ after)) := by
  have read := (frontWritten.append backWritten).ofArguments_eq
  have already := interleaves.length_plainArguments
  refine isMistake_of_miscounted read ?_
  simp only [plainArguments_append, plainArguments_plain, List.length_append,
    List.length_cons] at already ⊢
  omega

end Report

/-- Items that give the options of a report are read as this report, however they are interleaved
and written. One too many is a mistake at every place behind the command, and in front of it unless
it asks for the version there; and so is a path that is missing. -/
theorem parse_interleaved {options : ReportOptions} {items : List Item} {arguments : List String}
    (interleaves : options.Interleaves items) (written : Item.AllWrittenAs items arguments) :
    Command.parse ("report" :: arguments) = .ok (.report options) ∧
    (∀ more, options.Exceeds more →
      (∀ before after, arguments = before ++ after →
        IsMistake ("report" :: (before ++ (more ++ after)))) ∧
      ((∀ first ∈ more.head?, asksForVersion first = false) →
        IsMistake (more ++ "report" :: arguments))) ∧
    ∀ front path back before after, items = front ++ .plain path :: back →
      Item.AllWrittenAs front before → Item.AllWrittenAs back after →
      IsMistake ("report" :: (before ++ after)) := by
  refine ⟨?_, ?_, ?_⟩
  · have source := interleaves.inOrder.mem List.mem_cons_self
    have replay := interleaves.inOrder.mem (List.mem_cons_of_mem _ List.mem_cons_self)
    rw [parse_report_eq, written.ofArguments_eq]
    exact reportOf_eq interleaves (written.ne_empty source) (written.ne_empty replay)
  · intro more exceeds
    refine ⟨?_, exceeds.isMistake_front interleaves written⟩
    intro before after cut
    cases written.divides cut with
    | between frontWritten backWritten =>
      exact exceeds.isMistake_between interleaves frontWritten backWritten
    | within isOption isPath frontWritten backWritten =>
      rw [List.append_assoc]
      exact exceeds.isMistake_within interleaves isOption isPath frontWritten backWritten
  · rintro front path back before after rfl frontWritten backWritten
    exact isMistake_of_missing interleaves frontWritten backWritten

/-- A plain argument in front of the path of the settings is taken for that path. -/
theorem parse_interleaved_mixed :
    Command.parse ["report", "--no-source", "a", "-c", "c", "b", "--explain"] =
        .ok (.report ⟨"a", "b", some "c", true, false, true, false⟩) ∧
      IsMistake ["report", "--no-source", "a", "-c", "d", "c", "b", "--explain"] ∧
      IsMistake ["--config=d", "report", "--no-source", "a", "-c", "c", "b", "--explain"] ∧
      IsMistake ["report", "--no-source", "-c", "c", "b", "--explain"] := by
  have isPath (c : Char) (noDash : c ≠ '-') (noEquals : c ≠ '=') : IsPath (.ofList [c]) :=
    ⟨c, [], String.toList_ofList, noDash, noEquals⟩
  have a : IsPath "a" := isPath 'a' (by decide) (by decide)
  have b : IsPath "b" := isPath 'b' (by decide) (by decide)
  have c : IsPath "c" := isPath 'c' (by decide) (by decide)
  have d : IsPath "d" := isPath 'd' (by decide) (by decide)
  have interleaves : ReportOptions.Interleaves ⟨"a", "b", some "c", true, false, true, false⟩
      [.flag .noSource, .plain "a", .settings "c", .plain "b", .flag .explain] :=
    ⟨by decide, by decide⟩
  have back : Item.AllWrittenAs [.settings "c", .plain "b", .flag .explain]
      ["-c", "c", "b", "--explain"] :=
    .cons (.short c) (.cons (.plain b) (.cons (.flag .explain) .nil))
  have written : Item.AllWrittenAs
      [.flag .noSource, .plain "a", .settings "c", .plain "b", .flag .explain]
      ["--no-source", "a", "-c", "c", "b", "--explain"] :=
    .cons (.flag .noSource) (.cons (.plain a) back)
  obtain ⟨parsed, exceeded, missing⟩ := parse_interleaved interleaves written
  refine ⟨parsed, ?_, ?_, ?_⟩
  · exact (exceeded ["d"] (.plain d.isPlain)).1 ["--no-source", "a", "-c"] _ rfl
  · exact (exceeded ["--config=d"] (.settings rfl (.longEquals d))).2 (by decide)
  · exact missing [.flag .noSource] "a" _ ["--no-source"] _ rfl (.cons (.flag .noSource) .nil) back

end DiagnosticRelay.CommandLine
