import DiagnosticRelay.Proofs.Toml.Keyed
import DiagnosticRelay.Settings.Reader
import Mathlib

/-!
# Sections of the settings

What a document says about the settings is what its two sections hold under the names of their
fields. A section may be a table, an array of the values of its fields, or a moment, which holds
nothing. The main statement is that documents whose sections hold the same are read alike, whatever
else they say and in whatever order, and that a document is refused exactly if a section is of
another kind or holds a value that its field does not take.
-/

namespace DiagnosticRelay

/-! ## Agreement -/

/-- Values are alike if they differ only in the order of the entries of tables, at any depth. -/
inductive Toml.Alike : Toml → Toml → Prop where
  | refl (value : Toml) : Alike value value
  | trans {first second third : Toml} (left : Alike first second) (right : Alike second third) :
      Alike first third
  | order {entries entries' : List (String × Toml)} (anyOrder : entries.Perm entries') :
      Alike (.table entries) (.table entries')
  | entry (before : List (String × Toml)) (name : String) {value value' : Toml}
      (after : List (String × Toml)) (alike : Alike value value') :
      Alike (.table (before ++ (name, value) :: after)) (.table (before ++ (name, value') :: after))
  | item (before : List Toml) {value value' : Toml} (after : List Toml)
      (alike : Alike value value') :
      Alike (.array (before ++ value :: after)) (.array (before ++ value' :: after))

namespace Settings

/-- What the entries have under a name is the same, as far as a relation of values tells. -/
structure AgreeAt (name : String) (same : Toml → Toml → Prop)
    (entries entries' : List (String × Toml)) : Prop where
  there : ∀ value, (name, value) ∈ entries → ∃ value', (name, value') ∈ entries' ∧ same value value'
  back : ∀ value', (name, value') ∈ entries' → ∃ value, (name, value) ∈ entries ∧ same value value'

/-! ## Sections and fields -/

/-- The fields of the settings. -/
inductive Field where
  | enabled
  | once
  | levels
  | showSource
deriving DecidableEq

/-- The sections of the settings. -/
inductive Part where
  | explain
  | render
deriving DecidableEq

/-- The names of levels. -/
def levelNames : List String :=
  ["error", "warning", "info"]

/-- The values that a level may be: its name, or a table of nothing but its name with a table or an
array that is empty. -/
inductive IsLevel : Toml → Prop where
  | name {level : String} (known : level ∈ levelNames) : IsLevel (.string level)
  | table {level : String} (known : level ∈ levelNames) : IsLevel (.table [(level, .table [])])
  | array {level : String} (known : level ∈ levelNames) : IsLevel (.table [(level, .array [])])

namespace Field

def name : Field → String
  | enabled => "enabled"
  | once => "once"
  | levels => "levels"
  | showSource => "show_source"

/-- The values that a field takes. -/
def Accepts : Field → Toml → Prop
  | levels, value => ∃ items, value = .array items ∧ ∀ item ∈ items, IsLevel item
  | enabled, value | once, value | showSource, value => ∃ on, value = .boolean on

end Field

namespace Part

def name : Part → String
  | explain => "explain"
  | render => "render"

/-- The fields of a section, in the order in which an array gives them. -/
def fields : Part → List Field
  | explain => [.enabled, .once, .levels]
  | render => [.showSource]

/-- What a section holds: a table its entries, an array its items under the names of the fields, and
a moment nothing. An array may be shorter than the list of fields, and what is beyond their number
is left aside. -/
inductive Holds (part : Part) : Toml → List (String × Toml) → Prop where
  | table (entries : List (String × Toml)) : Holds part (.table entries) entries
  | array (items : List Toml) : Holds part (.array items) ((part.fields.map Field.name).zip items)
  | moment : Holds part .moment []

/-- The sections state the same: neither is of a kind that holds anything, or what they hold agrees
under the names of the fields. -/
inductive StatesSame (part : Part) : Toml → Toml → Prop where
  | other {value value' : Toml} (holdsNone : ∀ entries, ¬part.Holds value entries)
      (holdsNone' : ∀ entries, ¬part.Holds value' entries) : StatesSame part value value'
  | held {value value' : Toml} {entries entries' : List (String × Toml)}
      (holds : part.Holds value entries) (holds' : part.Holds value' entries')
      (agree : ∀ field ∈ part.fields, AgreeAt field.name Toml.Alike entries entries') :
      StatesSame part value value'

/-- The section cannot be read: it is of a kind that holds nothing, or it holds a value that its
field does not take. -/
inductive Refuses (part : Part) : Toml → Prop where
  | kind {value : Toml} (holdsNone : ∀ entries, ¬part.Holds value entries) : Refuses part value
  | field {value held : Toml} {entries : List (String × Toml)} {field : Field}
      (holds : part.Holds value entries) (isField : field ∈ part.fields)
      (given : (field.name, held) ∈ entries) (misfit : ¬field.Accepts held) : Refuses part value

end Part

/-- The root tables have the same sections, and these state the same. Names that are not those of a
section do not matter. -/
def StatesSame (root root' : List (String × Toml)) : Prop :=
  ∀ part : Part, AgreeAt part.name part.StatesSame root root'

/-- A section of the root table cannot be read. -/
def Refuses (root : List (String × Toml)) : Prop :=
  ∃ (part : Part) (value : Toml), (part.name, value) ∈ root ∧ part.Refuses value

/-! ## Entries by name -/

section Lookup

variable {entries entries' : List (String × Toml)} {name : String} {value : Toml}

/-- An entry is found if it is there, since no other has its name. -/
theorem lookup_eq_some_iff (distinct : (entries.map Prod.fst).Nodup) :
    entries.lookup name = some value ↔ (name, value) ∈ entries := by
  rw [List.lookup_eq_some_iff]
  constructor
  · rintro ⟨before, after, rfl, -⟩
    exact List.mem_append_right before List.mem_cons_self
  · intro member
    obtain ⟨before, after, rfl⟩ := List.append_of_mem member
    rw [List.map_append, List.nodup_append] at distinct
    refine ⟨before, after, rfl, fun other earlier => bne_iff_ne.mpr fun same => ?_⟩
    exact distinct.2.2 _ (List.mem_map_of_mem earlier) name List.mem_cons_self same.symm

theorem AgreeAt.refl {same : Toml → Toml → Prop} (all : ∀ value, same value value) :
    AgreeAt name same entries entries :=
  ⟨fun value member => ⟨value, member, all value⟩, fun value member => ⟨value, member, all value⟩⟩

/-- If the value of an entry is replaced, the other entries stay. -/
theorem exists_mem_replaced {before after : List (String × Toml)} {other : String}
    {held value : Toml} (value' : Toml)
    (member : (name, held) ∈ before ++ (other, value) :: after) :
    ∃ held', (name, held') ∈ before ++ (other, value') :: after ∧
      (held' = held ∨ name = other ∧ held = value ∧ held' = value') := by
  obtain earlier | here | later := (List.mem_append.mp member).imp_right List.mem_cons.mp
  · exact ⟨held, List.mem_append_left _ earlier, .inl rfl⟩
  · obtain ⟨rfl, rfl⟩ := Prod.mk.inj here
    exact ⟨value', List.mem_append_right before List.mem_cons_self, .inr ⟨rfl, rfl, rfl⟩⟩
  · exact ⟨held, List.mem_append_right before (List.mem_cons_of_mem _ later), .inl rfl⟩

/-- An entry may be replaced if it has another name, or its value by one that is the same. -/
theorem AgreeAt.replace {same : Toml → Toml → Prop} (all : ∀ value, same value value)
    {other : String} {value' : Toml} (replaced : name = other → same value value')
    (before after : List (String × Toml)) :
    AgreeAt name same (before ++ (other, value) :: after) (before ++ (other, value') :: after) := by
  constructor
  · intro held member
    obtain ⟨held', there, rfl | ⟨sameName, rfl, rfl⟩⟩ := exists_mem_replaced value' member
    · exact ⟨held', there, all held'⟩
    · exact ⟨held', there, replaced sameName⟩
  · intro held' member
    obtain ⟨held, back, rfl | ⟨sameName, rfl, rfl⟩⟩ := exists_mem_replaced value member
    · exact ⟨held, back, all held⟩
    · exact ⟨held, back, replaced sameName⟩

theorem AgreeAt.rel_lookup {same : Toml → Toml → Prop}
    (agree : AgreeAt name same entries entries') (distinct : (entries.map Prod.fst).Nodup)
    (distinct' : (entries'.map Prod.fst).Nodup) :
    Option.Rel same (entries.lookup name) (entries'.lookup name) := by
  cases found : entries.lookup name with
  | some value =>
    obtain ⟨value', there, alike⟩ := agree.there value ((lookup_eq_some_iff distinct).mp found)
    rw [(lookup_eq_some_iff distinct').mpr there]
    exact .some alike
  | none =>
    cases found' : entries'.lookup name with
    | none => exact .none
    | some value' =>
      obtain ⟨value, back, -⟩ := agree.back value' ((lookup_eq_some_iff distinct').mp found')
      rw [(lookup_eq_some_iff distinct).mpr back] at found
      cases found

theorem map_fst_zip_sublist (names : List String) (items : List Toml) :
    ((names.zip items).map Prod.fst).Sublist names := by
  induction names generalizing items with
  | nil => exact .refl []
  | cons name names ih =>
    cases items with
    | nil => exact List.nil_sublist _
    | cons item items => exact (ih items).cons_cons name

end Lookup

namespace Part

variable {part : Part} {value : Toml} {entries : List (String × Toml)}

theorem name_injective : Function.Injective name := by
  intro part other same
  cases part <;> cases other <;> first | rfl | exact absurd same (by decide)

theorem Holds.unique {entries' : List (String × Toml)} (holds : part.Holds value entries)
    (holds' : part.Holds value entries') : entries = entries' := by
  cases holds <;> cases holds' <;> rfl

/-- A table of what a section holds may stand for the section. -/
theorem Holds.wellKeyed_table (holds : part.Holds value entries) (keyed : value.WellKeyed) :
    (Toml.table entries).WellKeyed := by
  cases holds with
  | table => exact keyed
  | moment => exact .table List.nodup_nil fun _ member => nomatch member
  | array items =>
    cases keyed with
    | array all =>
      have names : (part.fields.map Field.name).Nodup := by cases part <;> decide
      refine .table ((map_fst_zip_sublist _ items).nodup names) fun entry member => ?_
      exact all entry.2 (List.of_mem_zip member).2

theorem Holds.distinct (holds : part.Holds value entries) (keyed : value.WellKeyed) :
    (entries.map Prod.fst).Nodup :=
  (holds.wellKeyed_table keyed).distinct

end Part

/-! ## Reading fields -/

/-- A level has one name and no other. -/
theorem severity?_table_eq_none {entries : List (String × Toml)} (other : entries.length ≠ 1) :
    severity? (.table entries) = none := by
  match entries with
  | [] => rfl
  | [_] => exact absurd rfl other
  | _ :: _ :: _ => simp [severity?]

section Alike

variable {value value' : Toml} {value? value'? : Option Toml}

/-- Of the value beside the name of a level it only matters whether it is empty. -/
theorem severity?_name_alike (name : String) (alike : value.Alike value') :
    severity? (.table [(name, value)]) = severity? (.table [(name, value')]) := by
  induction alike with
  | refl value => rfl
  | trans _ _ left right => exact left.trans right
  | @order entries entries' anyOrder =>
    have lengths := anyOrder.length_eq
    match entries, entries' with
    | [], [] | _ :: _, _ :: _ => rfl
  | entry before _ after => cases before <;> rfl
  | item before after => cases before <;> rfl

theorem severity?_alike (alike : value.Alike value') : severity? value = severity? value' := by
  induction alike with
  | refl value => rfl
  | trans _ _ left right => exact left.trans right
  | @order entries entries' anyOrder =>
    by_cases single : entries.length = 1
    · obtain ⟨entry, rfl⟩ := List.length_eq_one_iff.mp single
      rw [List.singleton_perm.mp anyOrder]
    · rw [severity?_table_eq_none single, severity?_table_eq_none (anyOrder.length_eq ▸ single)]
  | entry before name after alike =>
    -- The entry is the only one of its table, or neither table is a level.
    match before, after with
    | [], [] => exact severity?_name_alike name alike
    | [], _ :: _ | _ :: _, _ =>
      rw [severity?_table_eq_none (by simp), severity?_table_eq_none (by simp)]
  | item => rfl

theorem boolean?_alike (fallback : Bool) (alike : Option.Rel Toml.Alike value? value'?) :
    boolean? fallback value? = boolean? fallback value'? := by
  cases alike with
  | none => rfl
  | some alike =>
    induction alike with
    | refl | order | entry | item => rfl
    | trans _ _ left right => exact left.trans right

theorem severities?_alike (alike : Option.Rel Toml.Alike value? value'?) :
    severities? value? = severities? value'? := by
  cases alike with
  | none => rfl
  | some alike =>
    induction alike with
    | refl | order | entry => rfl
    | trans _ _ left right => exact left.trans right
    | item before after alike =>
      simp only [severities?, List.mapM_append, List.mapM_cons, severity?_alike alike]

end Alike

section Fields

variable {value? : Option Toml} {fallback : Bool}

theorem boolean?_eq_none_iff :
    boolean? fallback value? = none ↔
      ∃ value, value? = some value ∧ ¬∃ on, value = .boolean on := by
  match value? with
  | none => simp [boolean?]
  | some value => cases value <;> simp [boolean?]

theorem ofTag?_eq_none_iff {level : String} :
    Severity.ofTag? level = none ↔ level ∉ levelNames := by
  unfold Severity.ofTag? levelNames
  grind

theorem severity?_eq_none_iff {value : Toml} : severity? value = none ↔ ¬IsLevel value := by
  constructor
  · intro refused isLevel
    cases isLevel with
    | name known | table known | array known => exact ofTag?_eq_none_iff.mp refused known
  · intro noLevel
    unfold severity?
    split
    · exact ofTag?_eq_none_iff.mpr fun known => noLevel (.name known)
    · exact ofTag?_eq_none_iff.mpr fun known => noLevel (.table known)
    · exact ofTag?_eq_none_iff.mpr fun known => noLevel (.array known)
    · rfl

/-- A list is refused exactly if one of its items is. -/
theorem mapM_severity?_eq_none_iff {items : List Toml} :
    items.mapM severity? = none ↔ ∃ item ∈ items, ¬IsLevel item := by
  induction items with
  | nil => simp
  | cons item rest ih =>
    rw [List.mapM_cons, List.exists_mem_cons_iff, ← severity?_eq_none_iff, ← ih]
    cases severity? item with
    | none => simp
    | some severity => cases rest.mapM severity? <;> simp

theorem severities?_eq_none_iff :
    severities? value? = none ↔ ∃ value, value? = some value ∧ ¬Field.levels.Accepts value := by
  match value? with
  | none => simp [severities?]
  | some value =>
    cases value with
    | array items => simp [severities?, mapM_severity?_eq_none_iff, Field.Accepts]
    | string | integer | float | boolean | moment | table => simp [severities?, Field.Accepts]

theorem explainOf?_eq_none_iff {enabled once levels : Option Toml} :
    explainOf? enabled once levels = none ↔
      boolean? false enabled = none ∨ boolean? false once = none ∨ severities? levels = none := by
  unfold explainOf?
  cases boolean? false enabled with
  | none => simp
  | some enabled =>
    cases boolean? false once with
    | none => simp
    | some once => cases severities? levels <;> simp

end Fields

/-! ## Reading sections -/

theorem explain?_of_holds {value : Toml} {entries : List (String × Toml)}
    (holds : Part.explain.Holds value entries) :
    explain? (some value) = explainOf? (entries.lookup Field.enabled.name)
      (entries.lookup Field.once.name) (entries.lookup Field.levels.name) := by
  cases holds with
  | table => rfl
  | array items =>
    match items with
    | [] | [_] | [_, _] | _ :: _ :: _ :: _ => rfl
  | moment => rfl

theorem render?_of_holds {value : Toml} {entries : List (String × Toml)}
    (holds : Part.render.Holds value entries) :
    render? (some value) = renderOf? (entries.lookup Field.showSource.name) := by
  cases holds with
  | table => rfl
  | array items =>
    match items with
    | [] | _ :: _ => rfl
  | moment => rfl

namespace Part

variable {part : Part} {value value' : Toml} {entries : List (String × Toml)}

theorem StatesSame.refl (value : Toml) : part.StatesSame value value := by
  by_cases holding : ∃ entries, part.Holds value entries
  · obtain ⟨entries, holds⟩ := holding
    exact .held holds holds fun _ _ => .refl Toml.Alike.refl
  · exact .other (not_exists.mp holding) (not_exists.mp holding)

theorem Holds.refuses_iff (holds : part.Holds value entries) :
    part.Refuses value ↔
      ∃ field ∈ part.fields, ∃ held, (field.name, held) ∈ entries ∧ ¬field.Accepts held := by
  constructor
  · rintro (holdsNone | ⟨otherHolds, isField, given, misfit⟩)
    · exact absurd holds (holdsNone entries)
    · rw [otherHolds.unique holds] at given
      exact ⟨_, isField, _, given, misfit⟩
  · rintro ⟨field, isField, held, given, misfit⟩
    exact .field holds isField given misfit

/-- Neither section is read from a value that holds nothing. -/
theorem eq_none_of_not_holds (holdsNone : ∀ entries, ¬part.Holds value entries) :
    explain? (some value) = none ∧ render? (some value) = none := by
  cases value with
  | string | integer | float | boolean => exact ⟨rfl, rfl⟩
  | table entries => exact absurd (.table entries) (holdsNone _)
  | array items => exact absurd (.array items) (holdsNone _)
  | moment => exact absurd .moment (holdsNone _)

theorem explain?_eq_none_iff (keyed : value.WellKeyed) :
    explain? (some value) = none ↔ Part.explain.Refuses value := by
  by_cases holding : ∃ entries, Part.explain.Holds value entries
  · obtain ⟨entries, holds⟩ := holding
    have distinct := holds.distinct keyed
    rw [explain?_of_holds holds, holds.refuses_iff, explainOf?_eq_none_iff, boolean?_eq_none_iff,
      boolean?_eq_none_iff, severities?_eq_none_iff]
    simp only [lookup_eq_some_iff distinct]
    simp [fields, Field.Accepts]
  · have holdsNone := not_exists.mp holding
    exact iff_of_true (eq_none_of_not_holds holdsNone).1 (.kind holdsNone)

theorem render?_eq_none_iff (keyed : value.WellKeyed) :
    render? (some value) = none ↔ Part.render.Refuses value := by
  by_cases holding : ∃ entries, Part.render.Holds value entries
  · obtain ⟨entries, holds⟩ := holding
    have distinct := holds.distinct keyed
    rw [render?_of_holds holds, holds.refuses_iff, renderOf?, Option.map_eq_none_iff,
      boolean?_eq_none_iff]
    simp only [lookup_eq_some_iff distinct]
    simp [fields, Field.Accepts]
  · have holdsNone := not_exists.mp holding
    exact iff_of_true (eq_none_of_not_holds holdsNone).2 (.kind holdsNone)

theorem StatesSame.explain?_eq (same : Part.explain.StatesSame value value')
    (keyed : value.WellKeyed) (keyed' : value'.WellKeyed) :
    explain? (some value) = explain? (some value') := by
  cases same with
  | other holdsNone holdsNone' =>
    rw [(eq_none_of_not_holds holdsNone).1, (eq_none_of_not_holds holdsNone').1]
  | held holds holds' agree =>
    have found (field : Field) (isField : field ∈ Part.explain.fields) :=
      (agree field isField).rel_lookup (holds.distinct keyed) (holds'.distinct keyed')
    rw [explain?_of_holds holds, explain?_of_holds holds', explainOf?, explainOf?,
      boolean?_alike false (found .enabled (by decide)),
      boolean?_alike false (found .once (by decide)), severities?_alike (found .levels (by decide))]

theorem StatesSame.render?_eq (same : Part.render.StatesSame value value')
    (keyed : value.WellKeyed) (keyed' : value'.WellKeyed) :
    render? (some value) = render? (some value') := by
  cases same with
  | other holdsNone holdsNone' =>
    rw [(eq_none_of_not_holds holdsNone).2, (eq_none_of_not_holds holdsNone').2]
  | held holds holds' agree =>
    have found := (agree .showSource (by decide)).rel_lookup (holds.distinct keyed)
      (holds'.distinct keyed')
    rw [render?_of_holds holds, render?_of_holds holds', renderOf?, renderOf?,
      boolean?_alike true found]

end Part

/-! ## Reading documents -/

section Documents

variable {α : Type} {read? : Option Toml → Option α}
  {root root' : List (String × Toml)} {name : String}

/-- A section that need not be there is refused exactly if it is there and its value is. -/
theorem read?_lookup_eq_none_iff {Refused : Toml → Prop} (missing : read? none ≠ none)
    (given : ∀ {value : Toml}, value.WellKeyed → (read? (some value) = none ↔ Refused value))
    (keyed : (Toml.table root).WellKeyed) :
    read? (root.lookup name) = none ↔ ∃ value, (name, value) ∈ root ∧ Refused value := by
  have distinct := keyed.distinct
  simp only [← lookup_eq_some_iff distinct]
  cases found : root.lookup name with
  | none => simpa using missing
  | some value =>
    rw [given (keyed.of_mem ((lookup_eq_some_iff distinct).mp found))]
    simp

/-- Sections that are read alike if they state the same are so too if they need not be there. -/
theorem read?_lookup_eq {same : Toml → Toml → Prop}
    (given : ∀ {value value' : Toml}, same value value' → value.WellKeyed → value'.WellKeyed →
      read? (some value) = read? (some value'))
    (agree : AgreeAt name same root root') (keyed : (Toml.table root).WellKeyed)
    (keyed' : (Toml.table root').WellKeyed) :
    read? (root.lookup name) = read? (root'.lookup name) := by
  have readAlike : AgreeAt name (fun value value' => read? (some value) = read? (some value'))
      root root' := by
    constructor
    · intro value member
      obtain ⟨value', member', alike⟩ := agree.there value member
      exact ⟨value', member', given alike (keyed.of_mem member) (keyed'.of_mem member')⟩
    · intro value' member'
      obtain ⟨value, member, alike⟩ := agree.back value' member'
      exact ⟨value, member, given alike (keyed.of_mem member) (keyed'.of_mem member')⟩
  have both := readAlike.rel_lookup keyed.distinct keyed'.distinct
  generalize root.lookup name = found, root'.lookup name = found' at both ⊢
  cases both with
  | some alike => exact alike
  | none => rfl

theorem ofToml?_eq_none_iff (keyed : (Toml.table root).WellKeyed) :
    ofToml? root = none ↔ Refuses root := by
  have explain : explain? (root.lookup "explain") = none ↔ _ :=
    read?_lookup_eq_none_iff nofun Part.explain?_eq_none_iff keyed
  have render : render? (root.lookup "render") = none ↔ _ :=
    read?_lookup_eq_none_iff nofun Part.render?_eq_none_iff keyed
  have sections : ofToml? root = none ↔
      explain? (root.lookup "explain") = none ∨ render? (root.lookup "render") = none := by
    unfold ofToml?
    cases explain? (root.lookup "explain") with
    | none => simp
    | some explain => cases render? (root.lookup "render") <;> simp
  rw [sections, explain, render]
  constructor
  · rintro (⟨value, member, refuses⟩ | ⟨value, member, refuses⟩)
    · exact ⟨.explain, value, member, refuses⟩
    · exact ⟨.render, value, member, refuses⟩
  · rintro ⟨_ | _, value, member, refuses⟩
    · exact .inl ⟨value, member, refuses⟩
    · exact .inr ⟨value, member, refuses⟩

theorem StatesSame.ofToml?_eq (same : StatesSame root root')
    (keyed : (Toml.table root).WellKeyed) (keyed' : (Toml.table root').WellKeyed) :
    ofToml? root = ofToml? root' := by
  have explain : explain? (root.lookup "explain") = explain? (root'.lookup "explain") :=
    read?_lookup_eq Part.StatesSame.explain?_eq (same .explain) keyed keyed'
  have render : render? (root.lookup "render") = render? (root'.lookup "render") :=
    read?_lookup_eq Part.StatesSame.render?_eq (same .render) keyed keyed'
  rw [ofToml?, ofToml?, explain, render]

theorem wellKeyed_replace {value value' : Toml} {before after : List (String × Toml)}
    (keyed : (Toml.table (before ++ (name, value) :: after)).WellKeyed)
    (keyed' : value'.WellKeyed) :
    (Toml.table (before ++ (name, value') :: after)).WellKeyed := by
  refine .table (by simpa using keyed.distinct) fun (other, held) member => ?_
  obtain ⟨held', back, rfl | ⟨-, rfl, -⟩⟩ := exists_mem_replaced value member
  · exact keyed.of_mem back
  · exact keyed'

/-- A section may be replaced by one that states the same. -/
theorem Part.StatesSame.replace {part : Part} {value value' : Toml}
    (same : part.StatesSame value value') (before after : List (String × Toml)) :
    Settings.StatesSame (before ++ (part.name, value) :: after)
      (before ++ (part.name, value') :: after) := by
  refine fun other => .replace Part.StatesSame.refl (fun sameName => ?_) before after
  rw [Part.name_injective sameName]
  exact same

end Documents

/-- Documents whose sections state the same give the same settings, or both are refused: names that
are not known, and the order of names, do not matter. A section may be written as the table of what
it holds, whether it is an array or a moment. And a document is refused exactly if one of its
sections cannot be read. -/
theorem parse_same_or_refused {text : String} {root : List (String × Toml)}
    (valid : Toml.parse? text = some root) :
    (∀ {text' : String} {root' : List (String × Toml)}, Toml.parse? text' = some root' →
      StatesSame root root' →
      (∃ settings, parse text = .ok settings ∧ parse text' = .ok settings) ∨
        (parse text = .error .malformed ∧ parse text' = .error .malformed)) ∧
    (∀ {part : Part} {value : Toml} {held before after : List (String × Toml)},
      root = before ++ (part.name, value) :: after → part.Holds value held →
      ofToml? (before ++ (part.name, .table held) :: after) = ofToml? root) ∧
    (parse text = .error .malformed ↔ Refuses root) := by
  have keyed := Toml.wellKeyed_parse? valid
  refine ⟨?_, ?_, ?_⟩
  · intro text' root' valid' same
    have keyed' := Toml.wellKeyed_parse? valid'
    rw [parse, valid, parse, valid', Option.bind_some, Option.bind_some,
      ← same.ofToml?_eq keyed keyed']
    cases ofToml? root with
    | none => exact .inr ⟨rfl, rfl⟩
    | some settings => exact .inl ⟨settings, rfl, rfl⟩
  · rintro part value held before after rfl holds
    have same : part.StatesSame value (.table held) :=
      .held holds (.table held) fun _ _ => .refl Toml.Alike.refl
    have member : (part.name, value) ∈ before ++ (part.name, value) :: after :=
      List.mem_append_right before List.mem_cons_self
    have keyedHeld := holds.wellKeyed_table (keyed.of_mem member)
    exact ((same.replace before after).ofToml?_eq keyed (wellKeyed_replace keyed keyedHeld)).symm
  · rw [← ofToml?_eq_none_iff keyed, parse, valid, Option.bind_some]
    cases ofToml? root <;> simp

section Sample

/-- A section as an array with one item too many, and a name that is not known. -/
def arrayText : String :=
  "name = 'x'\nexplain = [true, false, ['info', {error = []}], 1]"

/-- The section of `arrayText` as a table in another order, with a name that is not known. -/
def tableText : String :=
  "[explain]\nlevels = ['info', {error = []}]\nfirst = 1979-05-27\nonce = false\nenabled = true"

/-- A section with an item that is not a level. -/
def misfitText : String :=
  "explain.levels = ['info', 'debug']"

theorem parse_same_or_refused_array :
    (∃ settings, parse arrayText = .ok settings ∧ parse tableText = .ok settings) ∧
      parse misfitText = .error .malformed := by
  constructor
  · let levels : Toml := .array [.string "info", .table [("error", .array [])]]
    let items : List Toml := [.boolean true, .boolean false, levels, .integer 1]
    let entries : List (String × Toml) :=
      [("levels", levels), ("first", .moment), ("once", .boolean false), ("enabled", .boolean true)]
    have array : Toml.parse? arrayText =
        some [("name", .string "x"), ("explain", .array items)] := by
      cbv
    have table : Toml.parse? tableText = some [("explain", .table entries)] := by
      cbv
    have explain : Part.explain.StatesSame (.array items) (.table entries) := by
      refine .held (.array items) (.table entries) fun field _ => ?_
      constructor <;> cases field <;>
        simp [Part.fields, Field.name, items, entries, Toml.Alike.refl]
    have same : StatesSame [("name", .string "x"), ("explain", .array items)]
        [("explain", .table entries)] := by
      rintro (_ | _) <;> constructor <;> simp [Part.name, explain]
    obtain accepted | ⟨refused, -⟩ := (parse_same_or_refused array).1 table same
    · exact accepted
    · rw [parse, array] at refused
      cases refused
  · have misfit : Toml.parse? misfitText =
        some [("explain", .table [("levels", .array [.string "info", .string "debug"])])] := by
      cbv
    have noLevel : ¬IsLevel (.string "debug") := by
      rintro (known | _ | _)
      exact absurd known (by decide)
    have noLevels : ¬Field.levels.Accepts (.array [.string "info", .string "debug"]) := by
      rintro ⟨_, ⟨⟩, all⟩
      exact noLevel (all _ (by simp))
    refine (parse_same_or_refused misfit).2.2.mpr ⟨.explain, _, List.mem_cons_self, ?_⟩
    exact .field (.table _) (by decide) List.mem_cons_self noLevels

end Sample

end Settings

end DiagnosticRelay
