import DiagnosticRelay.Proofs.Toml.Section
import Mathlib.Data.List.Nodup

/-!
# Distinct keys

No name stands twice in a table of a document, at any depth. What is said once about an entry that
is new, replaced or changed along a path gives this for every statement, and so for the whole
document; inline tables are put together in the same way. The main statement is `wellKeyed_parse?`.
-/

namespace DiagnosticRelay.Toml

/-- No name stands twice in a table, at any depth. -/
inductive WellKeyed : Toml → Prop where
  | string (text : String) : WellKeyed (.string text)
  | integer (value : Int) : WellKeyed (.integer value)
  | float : WellKeyed .float
  | boolean (value : Bool) : WellKeyed (.boolean value)
  | moment : WellKeyed .moment
  | array {items : List Toml} (all : ∀ item ∈ items, WellKeyed item) : WellKeyed (.array items)
  | table {entries : List (String × Toml)} (distinct : (entries.map Prod.fst).Nodup)
      (all : ∀ entry ∈ entries, WellKeyed entry.2) : WellKeyed (.table entries)

section Tables

variable {entries : List (String × Toml)} {name : String} {value : Toml}

theorem WellKeyed.distinct (keyed : (Toml.table entries).WellKeyed) :
    (entries.map Prod.fst).Nodup := by
  cases keyed with
  | table distinct all => exact distinct

theorem WellKeyed.of_mem (keyed : (Toml.table entries).WellKeyed)
    (member : (name, value) ∈ entries) : value.WellKeyed := by
  cases keyed with
  | table distinct all => exact all (name, value) member

end Tables

mutual

/-- No name stands twice in an entry, while tables are put together. -/
inductive Entry.WellKeyed : Entry → Prop where
  | value {value : Toml} (keyed : value.WellKeyed) : Entry.WellKeyed (.value value)
  | table {form : Form} {entries : Entries} (keyed : Entries.WellKeyed entries) :
      Entry.WellKeyed (.table form entries)
  | tables {elements : List Entries} (all : ∀ entries ∈ elements, Entries.WellKeyed entries) :
      Entry.WellKeyed (.tables elements)

/-- No name stands twice in entries. -/
inductive Entries.WellKeyed : Entries → Prop where
  | intro {entries : Entries} (distinct : (entries.map Prod.fst).Nodup)
      (all : ∀ entry ∈ entries, Entry.WellKeyed entry.2) : Entries.WellKeyed entries

end

/-! ## Putting tables together -/

/-- What every step keeps, a run that is not refused keeps. -/
theorem foldlM_keeps {σ α : Type} {P : σ → Prop} {Q : α → Prop} {step : σ → α → Option σ}
    (keeps : ∀ {state a next}, P state → Q a → step state a = some next → P next)
    {run : List α} {state result : σ} (start : P state) (all : ∀ a ∈ run, Q a)
    (done : run.foldlM step state = some result) : P result := by
  induction run generalizing state with
  | nil =>
    cases done
    exact start
  | cons a rest ih =>
    obtain ⟨first, others⟩ := List.forall_mem_cons.mp all
    rw [List.foldlM_cons, Option.bind_eq_bind, Option.bind_eq_some_iff] at done
    obtain ⟨next, stepped, done⟩ := done
    exact ih (keeps start first stepped) others done

namespace Entries

variable {entries inner result : Entries} {name : String} {entry : Entry} {form : Form}

theorem notMem_of_lookup (new : entries.lookup name = none) : name ∉ entries.map Prod.fst := by
  intro member
  obtain ⟨entry, found, rfl⟩ := List.mem_map.mp member
  have differs := List.lookup_eq_none_iff.mp new entry found
  simp at differs

namespace WellKeyed

theorem nil : WellKeyed [] :=
  .intro List.nodup_nil fun _ member => nomatch member

theorem distinct (keyed : WellKeyed entries) : (entries.map Prod.fst).Nodup := by
  cases keyed with
  | intro distinct all => exact distinct

theorem of_mem (keyed : WellKeyed entries) (member : (name, entry) ∈ entries) :
    entry.WellKeyed := by
  cases keyed with
  | intro distinct all => exact all (name, entry) member

theorem of_lookup (keyed : WellKeyed entries) (found : entries.lookup name = some entry) :
    entry.WellKeyed := by
  obtain ⟨before, after, rfl, -⟩ := List.lookup_eq_some_iff.mp found
  exact keyed.of_mem (List.mem_append_right before List.mem_cons_self)

/-- A name that is not found is new. -/
theorem add (keyed : WellKeyed entries) (new : entries.lookup name = none)
    (entryKeyed : entry.WellKeyed) : WellKeyed (entries.add name entry) := by
  have absent := notMem_of_lookup new
  constructor
  · rw [Entries.add, List.map_append, List.nodup_append]
    refine ⟨keyed.distinct, List.nodup_singleton _, ?_⟩
    rintro old member _ added rfl
    obtain rfl : old = name := by simpa using added
    exact absent member
  · intro other member
    obtain old | added := List.mem_append.mp member
    · exact keyed.of_mem old
    · rw [List.mem_singleton.mp added]
      exact entryKeyed

/-- To replace an entry keeps the names. -/
theorem set (keyed : WellKeyed entries) (entryKeyed : entry.WellKeyed) :
    WellKeyed (entries.set name entry) := by
  have names : (entries.set name entry).map Prod.fst = entries.map Prod.fst := by
    rw [Entries.set, List.map_map]
    refine List.map_congr_left fun other _ => ?_
    by_cases same : other.1 = name <;> simp [same]
  constructor
  · rw [names]
    exact keyed.distinct
  · intro other member
    obtain ⟨old, oldMember, rfl⟩ := List.mem_map.mp member
    by_cases same : old.1 = name
    · simpa [same] using entryKeyed
    · simpa [same] using keyed.of_mem oldMember

/-- What an action keeps in the table that a path leads to, the change along the path keeps. -/
theorem change {passable : Form → Bool} {missing : Form}
    {action : Form → Entries → Option Entries}
    (keeps : ∀ {form inner result}, WellKeyed inner → action form inner = some result →
      WellKeyed result)
    {path : List String} (keyed : WellKeyed entries)
    (changed : Entries.change passable missing action path form entries = some result) :
    WellKeyed result := by
  induction path generalizing form entries result with
  | nil => exact keeps keyed changed
  | cons name path ih =>
    rw [Entries.change] at changed
    split at changed
    · rename_i new
      obtain ⟨inner, made, rfl⟩ := Option.map_eq_some_iff.mp changed
      exact keyed.add new (.table (ih nil made))
    · rename_i form inner found
      cases keyed.of_lookup found with
      | table innerKeyed =>
        split at changed
        · obtain ⟨inner', made, rfl⟩ := Option.map_eq_some_iff.mp changed
          exact keyed.set (.table (ih innerKeyed made))
        · cases changed
    · rename_i latest earlier found
      cases keyed.of_lookup found with
      | tables all =>
        obtain ⟨latestKeyed, earlierKeyed⟩ := List.forall_mem_cons.mp all
        obtain ⟨latest', made, rfl⟩ := Option.map_eq_some_iff.mp changed
        exact keyed.set (.tables (List.forall_mem_cons.mpr ⟨ih latestKeyed made, earlierKeyed⟩))
    · cases changed
    · cases changed

theorem assign {key : Key} {value : Toml} (keyed : WellKeyed entries)
    (valueKeyed : value.WellKeyed) (assigned : entries.assign key value = some result) :
    WellKeyed result := by
  refine change ?_ keyed assigned
  intro form inner result innerKeyed added
  split at added
  · cases added
  · split at added
    · cases added
    · rename_i _ new
      obtain rfl := Option.some.inj added
      exact innerKeyed.add (Option.not_isSome_iff_eq_none.mp new) (.value valueKeyed)

theorem openTable {key : Key} (keyed : WellKeyed entries)
    (opened : entries.openTable key = some result) : WellKeyed result := by
  refine change ?_ keyed opened
  intro form inner result innerKeyed added
  split at added
  · rename_i new
    obtain rfl := Option.some.inj added
    exact innerKeyed.add new (.table nil)
  · rename_i entries found
    obtain rfl := Option.some.inj added
    cases innerKeyed.of_lookup found with
    | table entriesKeyed => exact innerKeyed.set (.table entriesKeyed)
  · cases added

theorem openElement {key : Key} (keyed : WellKeyed entries)
    (opened : entries.openElement key = some result) : WellKeyed result := by
  refine change ?_ keyed opened
  intro form inner result innerKeyed added
  split at added
  · rename_i new
    obtain rfl := Option.some.inj added
    exact innerKeyed.add new (.tables (by simpa using nil))
  · rename_i elements found
    obtain rfl := Option.some.inj added
    cases innerKeyed.of_lookup found with
    | tables all => exact innerKeyed.set (.tables (List.forall_mem_cons.mpr ⟨nil, all⟩))
  · cases added

theorem ofPairs? {pairs : List (Key × Toml)} (all : ∀ pair ∈ pairs, pair.2.WellKeyed)
    (made : Entries.ofPairs? pairs = some result) : WellKeyed result :=
  foldlM_keeps assign nil all made

end WellKeyed

theorem elementValues_eq_map (elements : List Entries) :
    elementValues elements = elements.map fun entries => .table (values entries) := by
  induction elements with
  | nil => rw [elementValues]; rfl
  | cons entries rest ih => rw [elementValues, ih]; rfl

end Entries

/-! ## What entries amount to -/

mutual

theorem Entry.WellKeyed.entryValue : ∀ {entry : Entry}, entry.WellKeyed →
    (Entries.entryValue entry).WellKeyed
  | _, .value keyed => by
    rw [Entries.entryValue]
    exact keyed
  | _, .table keyed => by
    rw [Entries.entryValue]
    exact keyed.table_values
  | _, .tables all => by
    rw [Entries.entryValue, Entries.elementValues_eq_map]
    refine .array fun item member => ?_
    obtain ⟨entries, found, rfl⟩ := List.mem_map.mp (List.mem_reverse.mp member)
    exact (all entries found).table_values

theorem Entries.WellKeyed.table_values : ∀ {entries : Entries}, entries.WellKeyed →
    (Toml.table (Entries.values entries)).WellKeyed
  | _, .intro distinct all => by
    rw [Entries.values_eq_map]
    refine .table ?_ fun item member => ?_
    · rw [List.map_map]
      exact distinct
    · obtain ⟨entry, found, rfl⟩ := List.mem_map.mp member
      exact (all entry found).entryValue

end

/-! ## Reading -/

section Reading

variable {cs rest : List Char} {value : Toml}

theorem moment?_eq_some (read : moment? cs = some (value, rest)) : value = .moment := by
  unfold moment? at read
  split at read
  · obtain ⟨_, _, same⟩ := Option.map_eq_some_iff.mp read
    exact (congrArg Prod.fst same).symm
  · obtain ⟨_, _, same⟩ := Option.map_eq_some_iff.mp read
    exact (congrArg Prod.fst same).symm

theorem figures?_eq_some (read : figures? cs = some (value, rest)) : value = .float := by
  unfold figures? at read
  grind

theorem float?_eq_some (read : float? cs = some (value, rest)) : value = .float := by
  unfold float? at read
  split at read
  · cases read
    rfl
  · cases read
    rfl
  · exact figures?_eq_some read

theorem exists_of_inBase? {base : Nat} (read : inBase? base cs = some (value, rest)) :
    ∃ n, value = .integer n := by
  unfold inBase? at read
  grind

theorem exists_of_integer? (read : integer? cs = some (value, rest)) : ∃ n, value = .integer n := by
  unfold integer? decimal? at read
  split at read
  · exact exists_of_inBase? read
  · exact exists_of_inBase? read
  · exact exists_of_inBase? read
  · grind

theorem wellKeyed_scalar? (read : scalar? cs = some (value, rest)) : value.WellKeyed := by
  unfold scalar? at read
  split at read
  · cases read
    exact .boolean true
  · cases read
    exact .boolean false
  · split at read
    · cases read
      exact .string _
    · rw [Option.or_eq_some_iff, Option.or_eq_some_iff] at read
      obtain (moment | ⟨-, float⟩) | ⟨-, integer⟩ := read
      · exact moment?_eq_some moment ▸ .moment
      · exact float?_eq_some float ▸ .float
      · obtain ⟨n, rfl⟩ := exists_of_integer? integer
        exact .integer n

/-- The reader gives only values in which no name stands twice. -/
def ValueReader.IsKeyed (read? : ValueReader) : Prop :=
  ∀ {cs rest : List Char} {value : Toml}, read? cs = some (value, rest) → value.WellKeyed

variable {read? : ValueReader} {limit : Nat}

theorem wellKeyed_items? (keyed : read?.IsKeyed) {items : List Toml}
    (read : items? read? limit cs = some (items, rest)) : ∀ item ∈ items, item.WellKeyed := by
  induction limit generalizing cs items with
  | zero => cases read
  | succ limit ih =>
    unfold items? at read
    split at read
    · cases read
      exact fun _ member => nomatch member
    · split at read
      · cases read
      · rename_i item _ itemRead
        split at read
        · obtain ⟨⟨others, _⟩, othersRead, same⟩ := Option.map_eq_some_iff.mp read
          cases same
          exact List.forall_mem_cons.mpr ⟨keyed itemRead, ih othersRead⟩
        · cases read
          exact List.forall_mem_singleton.mpr (keyed itemRead)
        · cases read

theorem wellKeyed_pair? (keyed : read?.IsKeyed) {pair : Key × Toml}
    (read : pair? read? cs = some (pair, rest)) : pair.2.WellKeyed := by
  unfold pair? at read
  split at read
  · obtain ⟨_, valueRead, same⟩ := Option.map_eq_some_iff.mp read
    cases same
    exact keyed valueRead
  · cases read

theorem wellKeyed_pairs? (keyed : read?.IsKeyed) {pairs : List (Key × Toml)}
    (read : pairs? read? limit cs = some (pairs, rest)) : ∀ pair ∈ pairs, pair.2.WellKeyed := by
  induction limit generalizing cs pairs with
  | zero => cases read
  | succ limit ih =>
    unfold pairs? at read
    split at read
    · cases read
    · rename_i pair _ pairRead
      split at read
      · obtain ⟨⟨others, _⟩, othersRead, same⟩ := Option.map_eq_some_iff.mp read
        cases same
        exact List.forall_mem_cons.mpr ⟨wellKeyed_pair? keyed pairRead, ih othersRead⟩
      · cases read
        exact List.forall_mem_singleton.mpr (wellKeyed_pair? keyed pairRead)
      · cases read

theorem wellKeyed_inlineTable? (keyed : read?.IsKeyed)
    (read : inlineTable? read? cs = some (value, rest)) : value.WellKeyed := by
  unfold inlineTable? at read
  split at read
  · cases read
    exact .table List.nodup_nil fun _ member => nomatch member
  · split at read
    · cases read
    · rename_i pairs _ pairsRead
      obtain ⟨entries, made, same⟩ := Option.map_eq_some_iff.mp read
      cases same
      exact (Entries.WellKeyed.ofPairs? (wellKeyed_pairs? keyed pairsRead) made).table_values

theorem isKeyed_value? (depth : Nat) : (value? depth).IsKeyed := by
  intro cs rest value read
  induction depth generalizing cs rest value with
  | zero => exact wellKeyed_scalar? read
  | succ depth ih =>
    unfold value? at read
    split at read
    · obtain ⟨_, itemsRead, same⟩ := Option.map_eq_some_iff.mp read
      cases same
      exact .array (wellKeyed_items? ih itemsRead)
    · exact wellKeyed_inlineTable? ih read
    · exact wellKeyed_scalar? read

/-- No name stands twice in the value that a statement gives, if it gives one. -/
def Statement.WellKeyed : Statement → Prop
  | .assign _ value => value.WellKeyed
  | .table _ | .element _ => True

theorem Statement.wellKeyed_read? {statement : Statement}
    (read : Statement.read? cs = some (statement, rest)) : statement.WellKeyed := by
  unfold Statement.read? at read
  split at read
  · split at read
    · cases read
      trivial
    · cases read
  · split at read
    · cases read
      trivial
    · cases read
  · obtain ⟨_, pairRead, same⟩ := Option.map_eq_some_iff.mp read
    cases same
    exact wellKeyed_pair? (isKeyed_value? _) pairRead

theorem Statement.wellKeyed_ofLines? {statements : List Statement}
    (read : Statement.ofLines? limit cs = some statements) :
    ∀ statement ∈ statements, statement.WellKeyed := by
  induction limit generalizing cs statements with
  | zero => cases read
  | succ limit ih =>
    unfold Statement.ofLines? at read
    split at read
    · cases read
      exact fun _ member => nomatch member
    · split at read
      · exact ih read
      · split at read
        · cases read
        · rename_i statement _ statementRead
          split at read
          · cases read
          · obtain ⟨others, othersRead, rfl⟩ := Option.map_eq_some_iff.mp read
            exact List.forall_mem_cons.mpr
              ⟨Statement.wellKeyed_read? statementRead, ih othersRead⟩

end Reading

/-! ## Documents -/

namespace Document

variable {document result : Document} {statement : Statement}

theorem wellKeyed_perform (keyed : document.root.WellKeyed) (statementKeyed : statement.WellKeyed)
    (performed : document.perform statement = some result) : result.root.WellKeyed := by
  cases statement with
  | table key =>
    obtain ⟨root, opened, rfl⟩ := Option.map_eq_some_iff.mp performed
    exact keyed.openTable opened
  | element key =>
    obtain ⟨root, opened, rfl⟩ := Option.map_eq_some_iff.mp performed
    exact keyed.openElement opened
  | assign key value =>
    obtain ⟨root, changed, rfl⟩ := Option.map_eq_some_iff.mp performed
    exact keyed.change (fun innerKeyed => innerKeyed.assign statementKeyed) changed

end Document

/-- In a document that is read no name stands twice in a table, at any depth. -/
theorem wellKeyed_parse? {text : String} {root : List (String × Toml)}
    (read : parse? text = some root) : (Toml.table root).WellKeyed := by
  obtain ⟨statements, statementsRead, read⟩ := Option.bind_eq_some_iff.mp read
  obtain ⟨document, performed, rfl⟩ := Option.map_eq_some_iff.mp read
  have all := Statement.wellKeyed_ofLines? statementsRead
  have empty : Document.empty.root.WellKeyed := .nil
  exact (foldlM_keeps Document.wellKeyed_perform empty all performed).table_values

end DiagnosticRelay.Toml
