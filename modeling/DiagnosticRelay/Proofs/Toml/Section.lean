import DiagnosticRelay.Proofs.Toml.Line

/-!
# Documents of sections

A section is a header of one name and, below it, keys of one name with their values. A document of
sections whose names are distinct is read as the table of its sections, in the order in which they
stand there.
-/

namespace DiagnosticRelay.Toml

/-- A header and what is listed below it. -/
structure Section where
  name : String
  fields : List (String × Toml)

namespace Section

/-- The section as an entry of the root table. -/
def toToml (sec : Section) : String × Toml :=
  (sec.name, .table sec.fields)

/-- The statement of a field. -/
def assignment (field : String × Toml) : Statement :=
  .assign ⟨[], field.1⟩ field.2

/-- The statements of a section, one for each line. -/
def statements (sec : Section) : List Statement :=
  .table ⟨[], sec.name⟩ :: sec.fields.map assignment

/-- A field while tables are put together. -/
def fieldEntry (field : String × Toml) : String × Entry :=
  (field.1, .value field.2)

/-- A section while tables are put together. -/
def entry (sec : Section) : String × Entry :=
  (sec.name, .table .opened (sec.fields.map fieldEntry))

/-- No name stands for two sections, or for two fields of one section. -/
structure AllDistinct (sections : List Section) : Prop where
  names : (sections.map (·.name)).Nodup
  fields : ∀ sec ∈ sections, (sec.fields.map Prod.fst).Nodup

end Section

/-! ## Entries by name -/

theorem lookup_eq_none {β : Type} {entries : List (String × β)} {name : String}
    (new : name ∉ entries.map Prod.fst) : entries.lookup name = none := by
  rw [List.lookup_eq_none_iff]
  intro entry member
  rw [bne_iff_ne]
  rintro rfl
  exact new (List.mem_map_of_mem member)

/-- The order of entries does not matter if each name stands there once. -/
theorem lookup_of_perm {β : Type} {entries entries' : List (String × β)}
    (perm : entries.Perm entries') (distinct : (entries'.map Prod.fst).Nodup) (name : String) :
    entries.lookup name = entries'.lookup name := by
  induction perm with
  | nil => rfl
  | cons entry perm ih =>
      rw [List.map_cons, List.nodup_cons] at distinct
      rw [List.lookup_cons, List.lookup_cons, ih distinct.2]
  | swap first second rest =>
      obtain ⟨one, value⟩ := first
      obtain ⟨other, value'⟩ := second
      have different : one ≠ other := by
        rintro rfl
        simp at distinct
      by_cases here : name = one
      · simp [List.lookup_cons, here, beq_eq_false_iff_ne.mpr different]
      · simp [List.lookup_cons, beq_eq_false_iff_ne.mpr here]
  | trans perm perm' ih ih' =>
      rw [ih ((perm'.map Prod.fst).nodup_iff.mpr distinct), ih' distinct]

namespace Entries

theorem set_append_singleton {entries : Entries} {name : String}
    (new : name ∉ entries.map Prod.fst) (old entry : Entry) :
    (entries ++ [(name, old)]).set name entry = entries ++ [(name, entry)] := by
  have others : ∀ other ∈ entries, other.1 ≠ name := by
    rintro other member rfl
    exact new (List.mem_map_of_mem member)
  have kept : entries.set name entry = entries := by
    refine (List.map_congr_left ?_).trans (List.map_id entries)
    intro other member
    exact if_neg (others other member)
  have appended : (entries ++ [(name, old)]).set name entry =
      entries.set name entry ++ [(name, entry)] := by
    simp [set]
  rw [appended, kept]

theorem values_eq_map (entries : Entries) :
    values entries = entries.map fun entry => (entry.1, entryValue entry.2) := by
  induction entries with
  | nil => rw [values]; rfl
  | cons entry rest ih => rw [values, ih]; rfl

end Entries

/-! ## Carrying out the statements -/

namespace Document

variable {root entries : Entries} {name : String}

/-- A new header opens a table at the end. -/
theorem perform_table (new : name ∉ root.map Prod.fst) (current : List String) :
    perform ⟨root, current⟩ (.table ⟨[], name⟩) =
      some ⟨root ++ [(name, .table .opened [])], [name]⟩ := by
  simp only [perform, Entries.openTable, Entries.change, lookup_eq_none new]
  rfl

/-- A new key gets its value at the end of the table that was opened last. -/
theorem perform_assign (new : name ∉ root.map Prod.fst) {field : String × Toml}
    (fresh : field.1 ∉ entries.map Prod.fst) :
    perform ⟨root ++ [(name, .table .opened entries)], [name]⟩ (Section.assignment field) =
      some ⟨root ++ [(name, .table .opened (entries ++ [Section.fieldEntry field]))], [name]⟩ := by
  have found : (root ++ [(name, Entry.table .opened entries)]).lookup name =
      some (.table .opened entries) := by
    simp [List.lookup_append, lookup_eq_none new]
  have assigned : Entries.assign entries ⟨[], field.1⟩ field.2 =
      some (entries ++ [Section.fieldEntry field]) := by
    simp only [Entries.assign, Entries.change, lookup_eq_none fresh]
    rfl
  simp only [perform, Section.assignment, Entries.change, found, assigned, if_true, Option.map_some,
    Entries.set_append_singleton new]

/-- The fields of a section are added to its table in order. -/
theorem foldlM_assignment (new : name ∉ root.map Prod.fst) {fields : List (String × Toml)}
    (distinct : (entries.map Prod.fst ++ fields.map Prod.fst).Nodup) :
    (fields.map Section.assignment).foldlM perform
        ⟨root ++ [(name, .table .opened entries)], [name]⟩ =
      some ⟨root ++ [(name, .table .opened (entries ++ fields.map Section.fieldEntry))],
        [name]⟩ := by
  induction fields generalizing entries with
  | nil => simp
  | cons field rest ih =>
      have fresh : field.1 ∉ entries.map Prod.fst := by
        intro member
        exact (List.nodup_append.mp distinct).2.2 _ member _ List.mem_cons_self rfl
      have others : ((entries ++ [Section.fieldEntry field]).map Prod.fst ++
          rest.map Prod.fst).Nodup := by
        simpa [Section.fieldEntry] using distinct
      rw [List.map_cons, List.foldlM_cons, perform_assign new fresh]
      change List.foldlM _ _ _ = _
      rw [ih others, List.map_cons, List.append_assoc, List.singleton_append]

/-- The sections of a document are added to its root in order. -/
theorem foldlM_statements {sections : List Section} (current : List String)
    (distinct : (root.map Prod.fst ++ sections.map (·.name)).Nodup)
    (fields : ∀ sec ∈ sections, (sec.fields.map Prod.fst).Nodup) :
    ∃ last, (sections.flatMap Section.statements).foldlM perform ⟨root, current⟩ =
      some ⟨root ++ sections.map Section.entry, last⟩ := by
  induction sections generalizing root current with
  | nil => exact ⟨current, by simp⟩
  | cons sec rest ih =>
      obtain ⟨first, others⟩ := List.forall_mem_cons.mp fields
      have new : sec.name ∉ root.map Prod.fst := by
        intro member
        exact (List.nodup_append.mp distinct).2.2 _ member _ List.mem_cons_self rfl
      have done : sec.statements.foldlM perform ⟨root, current⟩ =
          some ⟨root ++ [sec.entry], [sec.name]⟩ := by
        rw [Section.statements, List.foldlM_cons, perform_table new]
        exact foldlM_assignment new first
      have distinct' : ((root ++ [sec.entry]).map Prod.fst ++ rest.map (·.name)).Nodup := by
        simpa [Section.entry] using distinct
      obtain ⟨last, performed⟩ := ih [sec.name] distinct' others
      refine ⟨last, ?_⟩
      rw [List.flatMap_cons, List.foldlM_append, done]
      change List.foldlM _ _ _ = _
      rw [performed, List.map_cons, List.append_assoc, List.singleton_append]

end Document

/-! ## Reading a document -/

theorem Section.entryValue_entry (sec : Section) :
    (sec.entry.1, Entries.entryValue sec.entry.2) = sec.toToml := by
  have fields : Entries.values (sec.fields.map fieldEntry) = sec.fields := by
    rw [Entries.values_eq_map, List.map_map]
    exact List.map_id' sec.fields
  rw [entry, Entries.entryValue, fields, toToml]

theorem Section.values_map_entry (sections : List Section) :
    Entries.values (sections.map entry) = sections.map toToml := by
  rw [Entries.values_eq_map, List.map_map]
  exact List.map_congr_left fun sec _ => sec.entryValue_entry

/-- No written document begins with a mark of its byte order. -/
theorem trimMark_of_allWrittenAs {statements : List Statement} {text : List Char}
    (written : Statement.AllWrittenAs statements text) : trimMark text = text := by
  have read := Statement.ofLines?_of_allWrittenAs written (Nat.lt_succ_self text.length)
  have refused (limit : Nat) (rest : List Char) :
      Statement.ofLines? (limit + 1) ('\uFEFF' :: rest) = none := rfl
  unfold trimMark
  split
  · rw [refused] at read
    cases read
  · rfl

/-- The text lists the sections, one statement on a line. -/
def Lists (text : String) (sections : List Section) : Prop :=
  Statement.AllWrittenAs (sections.flatMap Section.statements) text.toList

/-- A document of sections is read as the table of the sections. -/
theorem parse?_of_lists {text : String} {sections : List Section} (lists : Lists text sections)
    (distinct : Section.AllDistinct sections) :
    parse? text = some (sections.map Section.toToml) := by
  have read := Statement.ofLines?_of_allWrittenAs lists (Nat.lt_succ_self _)
  have names : (([] : Entries).map Prod.fst ++ sections.map (·.name)).Nodup := distinct.names
  obtain ⟨last, performed⟩ := Document.foldlM_statements [] names distinct.fields
  rw [parse?, trimMark_of_allWrittenAs lists]
  simp only [read, Option.bind_some, Document.empty, performed, Option.map_some, List.nil_append,
    Section.values_map_entry]

end DiagnosticRelay.Toml
