import DiagnosticRelay.Proofs.Toml.Section
import DiagnosticRelay.Settings.Reader

/-!
# Written settings

A document may list any of the fields of the settings, under the headers of their sections and in
any order. The main statement is that it is read as the settings with exactly the listed values, and
with the default of every other field, whether its section is empty or missing. So the document that
lists all fields of settings is read as these settings, and the empty one as the default settings.
-/

namespace DiagnosticRelay

namespace Settings

/-- The fields that a document lists, each with its value. -/
structure Fields where
  enabled? : Option Bool := none
  once? : Option Bool := none
  severities? : Option (List Severity) := none
  showSource? : Option Bool := none
deriving DecidableEq, Repr

/-- The fields of one name, none or one. -/
def listed {α : Type} (name : String) (toToml : α → Toml) : Option α → List (String × Toml)
  | some value => [(name, toToml value)]
  | none => []

/-- Severities as an array of their tags. -/
def severitiesToml (severities : List Severity) : Toml :=
  .array (severities.map fun severity => .string severity.tag)

namespace Fields

/-- The settings that the fields choose. A field that is not listed has its default. -/
def settings (fields : Fields) : Settings where
  explain :=
    { enabled := fields.enabled?.getD false
      once := fields.once?.getD false
      severities := fields.severities?.getD Severity.all }
  render := { showSource := fields.showSource?.getD true }

/-- The fields of the explain section. -/
def explain (fields : Fields) : List (String × Toml) :=
  listed "enabled" .boolean fields.enabled? ++ listed "once" .boolean fields.once? ++
    listed "levels" severitiesToml fields.severities?

/-- The fields of the render section. -/
def render (fields : Fields) : List (String × Toml) :=
  listed "show_source" .boolean fields.showSource?

/-- All fields of settings. -/
def ofSettings (settings : Settings) : Fields where
  enabled? := some settings.explain.enabled
  once? := some settings.explain.once
  severities? := some settings.explain.severities
  showSource? := some settings.render.showSource

theorem settings_ofSettings (settings : Settings) :
    (ofSettings settings).settings = settings := rfl

end Fields

/-- The ways to list fields under a header, in any order. A section without fields may be left
out. -/
inductive OptionalSection (name : String) (fields : List (String × Toml)) :
    List Toml.Section → Prop where
  | leftOut (empty : fields = []) : OptionalSection name fields []
  | present {written : List (String × Toml)} (anyOrder : written.Perm fields) :
      OptionalSection name fields [⟨name, written⟩]

/-- The text lists exactly the fields, in sections of any order. -/
def Writes (fields : Fields) (text : String) : Prop :=
  ∃ explain render sections, OptionalSection "explain" fields.explain explain ∧
    OptionalSection "render" fields.render render ∧ sections.Perm (explain ++ render) ∧
    Toml.Lists text sections

/-! ## Finding the fields -/

section Listed

variable {α : Type} {toToml : α → Toml}

@[simp] theorem lookup_listed (name other : String) (value? : Option α) :
    (listed name toToml value?).lookup other =
      if other = name then value?.map toToml else none := by
  cases value? with
  | none => simp [listed]
  | some value =>
      by_cases same : other = name
      · simp [listed, same]
      · simp [listed, List.lookup_cons, same, beq_eq_false_iff_ne.mpr same]

theorem map_fst_listed_sublist (name : String) (value? : Option α) :
    ((listed name toToml value?).map Prod.fst).Sublist [name] := by
  cases value? with
  | none => exact List.nil_sublist _
  | some value => exact List.Sublist.refl _

end Listed

namespace Fields

variable (fields : Fields)

theorem nodup_explain : (fields.explain.map Prod.fst).Nodup := by
  have names : (fields.explain.map Prod.fst).Sublist ["enabled", "once", "levels"] := by
    rw [explain, List.map_append, List.map_append]
    exact ((map_fst_listed_sublist ..).append (map_fst_listed_sublist ..)).append
      (map_fst_listed_sublist ..)
  exact names.nodup (by decide)

theorem nodup_render : (fields.render.map Prod.fst).Nodup :=
  (map_fst_listed_sublist "show_source" _).nodup (by decide)

end Fields

/-! ## Reading the sections -/

theorem boolean?_map (fallback : Bool) (value? : Option Bool) :
    boolean? fallback (value?.map .boolean) = some (value?.getD fallback) := by
  cases value? with
  | none => rfl
  | some value => rfl

theorem mapM_severity? (severities : List Severity) :
    (severities.map fun severity => Toml.string severity.tag).mapM severity? = some severities := by
  induction severities with
  | nil => rfl
  | cons severity rest ih => simp [List.mapM_cons, severity?, ih]

theorem severities?_map (value? : Option (List Severity)) :
    severities? (value?.map severitiesToml) = some (value?.getD Severity.all) := by
  cases value? with
  | none => rfl
  | some severities => exact mapM_severity? severities

section Sections

variable {fields : Fields} {name : String} {listedFields : List (String × Toml)}
  {sections explain render : List Toml.Section}

theorem explain?_of_perm {written : List (String × Toml)} (anyOrder : written.Perm fields.explain) :
    explain? (some (.table written)) = some fields.settings.explain := by
  have found := Toml.lookup_of_perm anyOrder fields.nodup_explain
  simp [explain?, found, Fields.explain, List.lookup_append, explainOf?, boolean?_map,
    severities?_map, Fields.settings]

theorem render?_of_perm {written : List (String × Toml)} (anyOrder : written.Perm fields.render) :
    render? (some (.table written)) = some fields.settings.render := by
  have found := Toml.lookup_of_perm anyOrder fields.nodup_render
  simp [render?, found, Fields.render, renderOf?, boolean?_map, Fields.settings]

/-- A section that is left out has the same fields as one that is empty: none. -/
theorem explain?_lookup (written : OptionalSection "explain" fields.explain sections) :
    explain? ((sections.map Toml.Section.toToml).lookup "explain") =
      some fields.settings.explain := by
  cases written with
  | leftOut empty => exact explain?_of_perm (show List.Perm [] fields.explain by rw [empty])
  | present anyOrder => exact explain?_of_perm anyOrder

theorem render?_lookup (written : OptionalSection "render" fields.render sections) :
    render? ((sections.map Toml.Section.toToml).lookup "render") = some fields.settings.render := by
  cases written with
  | leftOut empty => exact render?_of_perm (show List.Perm [] fields.render by rw [empty])
  | present anyOrder => exact render?_of_perm anyOrder

theorem OptionalSection.lookup_other (written : OptionalSection name listedFields sections)
    {other : String} (ne : other ≠ name) :
    (sections.map Toml.Section.toToml).lookup other = none := by
  cases written with
  | leftOut => rfl
  | present => simp [Toml.Section.toToml, List.lookup_cons, beq_eq_false_iff_ne.mpr ne]

theorem OptionalSection.names_sublist (written : OptionalSection name listedFields sections) :
    (sections.map (·.name)).Sublist [name] := by
  cases written with
  | leftOut => exact List.nil_sublist _
  | present => exact List.Sublist.refl _

theorem OptionalSection.nodup_fields (written : OptionalSection name listedFields sections)
    (distinct : (listedFields.map Prod.fst).Nodup) :
    ∀ sec ∈ sections, (sec.fields.map Prod.fst).Nodup := by
  cases written with
  | leftOut => simp
  | present anyOrder => simpa [(anyOrder.map Prod.fst).nodup_iff] using distinct

theorem allDistinct (explainWritten : OptionalSection "explain" fields.explain explain)
    (renderWritten : OptionalSection "render" fields.render render)
    (anyOrder : sections.Perm (explain ++ render)) : Toml.Section.AllDistinct sections := by
  constructor
  · rw [(anyOrder.map _).nodup_iff, List.map_append]
    exact (explainWritten.names_sublist.append renderWritten.names_sublist).nodup (by decide)
  · intro sec member
    rcases List.mem_append.mp (anyOrder.mem_iff.mp member) with member | member
    · exact explainWritten.nodup_fields fields.nodup_explain sec member
    · exact renderWritten.nodup_fields fields.nodup_render sec member

/-- Sections of any order are read as the settings that their fields choose. -/
theorem ofToml?_of_sections (explainWritten : OptionalSection "explain" fields.explain explain)
    (renderWritten : OptionalSection "render" fields.render render)
    (anyOrder : sections.Perm (explain ++ render)) :
    ofToml? (sections.map Toml.Section.toToml) = some fields.settings := by
  have names : (((explain ++ render).map Toml.Section.toToml).map Prod.fst).Nodup := by
    rw [List.map_map]
    exact (allDistinct explainWritten renderWritten (.refl _)).names
  have found := Toml.lookup_of_perm (anyOrder.map Toml.Section.toToml) names
  have first : (sections.map Toml.Section.toToml).lookup "explain" =
      (explain.map Toml.Section.toToml).lookup "explain" := by
    rw [found, List.map_append, List.lookup_append, renderWritten.lookup_other (by decide),
      Option.or_none]
  have second : (sections.map Toml.Section.toToml).lookup "render" =
      (render.map Toml.Section.toToml).lookup "render" := by
    rw [found, List.map_append, List.lookup_append, explainWritten.lookup_other (by decide),
      Option.none_or]
  rw [ofToml?, first, explain?_lookup explainWritten, second, render?_lookup renderWritten]
  rfl

theorem parse_eq_ok {text : String} (written : Writes fields text) :
    parse text = .ok fields.settings := by
  obtain ⟨explain, render, sections, explainWritten, renderWritten, anyOrder, lists⟩ := written
  have distinct := allDistinct explainWritten renderWritten anyOrder
  rw [parse, Toml.parse?_of_lists lists distinct, Option.bind_some,
    ofToml?_of_sections explainWritten renderWritten anyOrder]

end Sections

/-! ## The document of settings -/

/-- A line with a key and its value, if there is one. -/
def fieldLine (name : String) : Option String → String
  | some value => name ++ " = " ++ value ++ "\n"
  | none => ""

/-- Severities as the text of an array. -/
def severitiesText (severities : List Severity) : String :=
  "[" ++ ", ".intercalate (severities.map fun severity => "\"" ++ severity.tag ++ "\"") ++ "]"

namespace Fields

/-- The document that lists the fields below the headers of their sections. -/
def document (fields : Fields) : String :=
  "[explain]\n" ++ fieldLine "enabled" (fields.enabled?.map toString) ++
    fieldLine "once" (fields.once?.map toString) ++
    fieldLine "levels" (fields.severities?.map severitiesText) ++
    "\n[render]\n" ++ fieldLine "show_source" (fields.showSource?.map toString)

end Fields

section Document

open Toml Statement

/-- The names of the sections and of their fields need no quotes. -/
theorem isBareName_of_mem : ∀ name ∈ ["explain", "enabled", "once", "levels", "render",
    "show_source"], IsBareName name.toList := by
  decide

theorem writtenAs_boolean (value : Bool) :
    (Toml.boolean value).WrittenAs (toString value).toList := by
  cases value with
  | false => exact .scalar .false
  | true => exact .scalar .true

/-- A tag has no character that needs an escape. -/
theorem writtenAs_tag (severity : Severity) :
    ScalarWrittenAs (.string severity.tag) ("\"" ++ severity.tag ++ "\"").toList := by
  have plain : IsRun isBasicChar severity.tag.toList := by
    cases severity <;> decide
  simpa using ScalarWrittenAs.basic plain

theorem itemsWrittenAs_tags (severity : Severity) (rest : List Severity) {gap : List Char}
    (before : IsGap gap) :
    ItemsWrittenAs ((severity :: rest).map fun severity => .string severity.tag)
      (gap ++ (", ".intercalate ((severity :: rest).map fun severity =>
        "\"" ++ severity.tag ++ "\"")).toList ++ [']']) := by
  induction rest generalizing severity gap with
  | nil =>
      have last := ItemsWrittenAs.last before (writtenAs_tag severity) .nil
      simpa using last
  | cons next rest ih =>
      have items := ItemsWrittenAs.cons before (writtenAs_tag severity) .nil (ih next isGap_space)
      simpa [String.intercalate_cons_cons] using items

theorem writtenAs_severities (severities : List Severity) :
    (severitiesToml severities).WrittenAs (severitiesText severities).toList := by
  cases severities with
  | nil => exact .array (.close .nil)
  | cons severity rest =>
      have array := WrittenAs.array (itemsWrittenAs_tags severity rest .nil)
      simpa [severitiesText, severitiesToml] using array

theorem allWrittenAs_header {name : String} (bare : IsBareName name.toList)
    {statements : List Statement} {rest : List Char} (tail : AllWrittenAs statements rest) :
    AllWrittenAs (.table ⟨[], name⟩ :: statements)
      (("[" ++ name ++ "]\n").toList ++ rest) := by
  have header := WrittenAs.table bare isBlanks_nil isBlanks_nil
  have line := AllWrittenAs.cons isBlanks_nil header isBlanks_nil .lineFeed tail
  simpa using line

theorem allWrittenAs_fieldLine {α : Type} {toToml : α → Toml} {text : α → String} {name : String}
    (bare : IsBareName name.toList)
    (written : ∀ value, (toToml value).WrittenAs (text value).toList) (value? : Option α)
    {statements : List Statement} {rest : List Char}
    (tail : AllWrittenAs statements rest) :
    AllWrittenAs ((listed name toToml value?).map Toml.Section.assignment ++ statements)
      ((fieldLine name (value?.map text)).toList ++ rest) := by
  cases value? with
  | none => simpa [listed, fieldLine] using tail
  | some value =>
      have assignment := WrittenAs.assign bare isBlanks_space isBlanks_space (written value)
      have line := AllWrittenAs.cons isBlanks_nil assignment isBlanks_nil .lineFeed tail
      simpa [listed, fieldLine, Toml.Section.assignment] using line

theorem Fields.lists_document (fields : Fields) :
    Toml.Lists fields.document [⟨"explain", fields.explain⟩, ⟨"render", fields.render⟩] := by
  have showSource := allWrittenAs_fieldLine (isBareName_of_mem "show_source" (by decide))
    writtenAs_boolean fields.showSource? (.nil isBlanks_nil)
  have render := allWrittenAs_header (isBareName_of_mem "render" (by decide)) showSource
  have between := AllWrittenAs.blank isBlanks_nil .lineFeed render
  have levels := allWrittenAs_fieldLine (isBareName_of_mem "levels" (by decide))
    writtenAs_severities fields.severities? between
  have once := allWrittenAs_fieldLine (isBareName_of_mem "once" (by decide))
    writtenAs_boolean fields.once? levels
  have enabled := allWrittenAs_fieldLine (isBareName_of_mem "enabled" (by decide))
    writtenAs_boolean fields.enabled? once
  have explain := allWrittenAs_header (isBareName_of_mem "explain" (by decide)) enabled
  simpa [Toml.Lists, Fields.document, Fields.explain, Fields.render, Section.statements]
    using explain

/-- Any fields can be listed. -/
theorem Fields.writes_document (fields : Fields) : Writes fields fields.document :=
  ⟨_, _, _, .present (.refl _), .present (.refl _), .refl _, fields.lists_document⟩

/-- The document of the default settings. -/
example : (Fields.ofSettings {}).document = "[explain]
enabled = false
once = false
levels = [\"error\", \"warning\", \"info\"]

[render]
show_source = true
" := by
  decide

end Document

section OwnForm

variable (settings : Settings)

theorem parse?_document :
    Toml.parse? (Fields.ofSettings settings).document = some settings.toToml := by
  have distinct := allDistinct (.present (.refl (Fields.ofSettings settings).explain))
    (.present (.refl (Fields.ofSettings settings).render)) (.refl _)
  exact Toml.parse?_of_lists (Fields.ofSettings settings).lists_document distinct

theorem ofToml?_toToml : ofToml? settings.toToml = some settings :=
  ofToml?_of_sections (.present (.refl (Fields.ofSettings settings).explain))
    (.present (.refl (Fields.ofSettings settings).render)) (.refl _)

end OwnForm

/-- However fields are listed, exactly they are read, and every other field has its default. Any
fields can be listed; if these are all fields of settings, the settings come back, as they do from
every text that is read as their table. The empty document gives the default settings. -/
theorem parse_listed :
    (∀ (fields : Fields) (text : String), Writes fields text → parse text = .ok fields.settings) ∧
    (∀ fields : Fields, Writes fields fields.document) ∧
    (∀ settings : Settings, parse (Fields.ofSettings settings).document = .ok settings ∧
      Toml.parse? (Fields.ofSettings settings).document = some settings.toToml ∧
      ∀ text, Toml.parse? text = some settings.toToml → parse text = .ok settings) ∧
    parse "" = .ok {} := by
  refine ⟨fun _ _ => parse_eq_ok, Fields.writes_document, ?_, ?_⟩
  · intro settings
    refine ⟨?_, parse?_document settings, ?_⟩
    · rw [parse_eq_ok (Fields.ofSettings settings).writes_document, Fields.settings_ofSettings]
    · intro text read
      rw [parse, read, Option.bind_some, ofToml?_toToml]
  · have nothing : Writes {} "" :=
      ⟨[], [], [], .leftOut rfl, .leftOut rfl, .refl _, .nil Toml.isBlanks_nil⟩
    exact parse_eq_ok nothing

section Sample

open Toml Statement

/-- Fields with a repeated severity. -/
def sampleFields : Fields :=
  { enabled? := some true, severities? := some [.error, .info, .info], showSource? := some false }

/-- The sections and the fields in another order, with more and fewer blanks and line breaks. -/
def sampleText : String :=
  "\r\n[ render ]\nshow_source=false \n[explain]
levels = [\n  'error',\n  \"info\", \"info\",\n]\nenabled\t= true"

theorem writes_sample : Writes sampleFields sampleText := by
  have no := isBlanks_nil
  have space := isBlanks_space
  have tab : IsBlanks ['\t'] := by decide
  have lineFeed : IsGap ['\n'] := .lineBreak .lineFeed .nil
  have indent : IsGap ['\n', ' ', ' '] := .lineBreak .lineFeed (.blank rfl isGap_space)
  have error : ScalarWrittenAs (.string (.ofList ['e', 'r', 'r', 'o', 'r'])) _ :=
    .literal (by decide)
  have info : ScalarWrittenAs (.string (.ofList ['i', 'n', 'f', 'o'])) _ :=
    .basic (by decide)
  have levels := ItemsWrittenAs.cons indent error .nil <| .cons indent info .nil <|
    .cons isGap_space info .nil <| .close lineFeed
  have bare := isBareName_of_mem
  have document :=
    AllWrittenAs.blank no .carriageReturn <|
    .cons no (.table (bare "render" (by decide)) space space) no .lineFeed <|
    .cons no (.assign (bare "show_source" (by decide)) no no (.scalar .false)) space .lineFeed <|
    .cons no (.table (bare "explain" (by decide)) no no) no .lineFeed <|
    .cons no (.assign (bare "levels" (by decide)) space space (.array levels)) no .lineFeed <|
    .last no (.assign (bare "enabled" (by decide)) tab space (.scalar .true)) no
  have explain : OptionalSection "explain" sampleFields.explain
      [⟨"explain", [("levels", severitiesToml [.error, .info, .info]),
        ("enabled", .boolean true)]⟩] :=
    .present (.swap ..)
  have render : OptionalSection "render" sampleFields.render
      [⟨"render", [("show_source", .boolean false)]⟩] :=
    .present (.refl _)
  refine ⟨_, _, _, explain, render, List.perm_append_comm, ?_⟩
  exact document

/-- The sample is read as its settings. -/
theorem parse_listed_sample :
    parse sampleText = .ok ⟨⟨true, false, [.error, .info, .info]⟩, ⟨false⟩⟩ :=
  parse_listed.1 sampleFields sampleText writes_sample

end Sample

end Settings

end DiagnosticRelay
