import DiagnosticRelay.Toml.Basic

/-!
# Tables of TOML

Tables are put together from keys and headers. A table may come into being in three ways: a header
opens it, the header of a table inside it implies it, or a dotted key makes it. How it came into
being decides what may still be said about it:

* a header may open a table once, and only one that is new or implied;
* a dotted key may pass through tables that are implied or made by dotted keys, and may add entries
  to the latter;
* a key has one value, and a value is closed, so an inline table cannot be extended.
-/

namespace DiagnosticRelay.Toml

/-- A key: the names of the tables it passes through and the name that it gives. -/
structure Key where
  path : List String
  name : String
deriving DecidableEq, Repr

/-- How a table came into being. -/
inductive Form where
  /-- By its header, or as the table in which a document or an inline table begins. -/
  | opened
  /-- By the header of a table inside it. -/
  | implied
  /-- By a dotted key. -/
  | dotted
deriving DecidableEq, Repr

/-- What a name stands for while tables are put together. -/
inductive Entry where
  | value (value : Toml)
  | table (form : Form) (entries : List (String × Entry))
  /-- An array of opened tables, the latest first. -/
  | tables (elements : List (List (String × Entry)))

/-- The names of a table with what they stand for. -/
abbrev Entries := List (String × Entry)

namespace Entries

/-- Replace what a name stands for. -/
def set (entries : Entries) (name : String) (entry : Entry) : Entries :=
  entries.map fun (other, old) => if other = name then (other, entry) else (other, old)

/-- Add a new name. -/
def add (entries : Entries) (name : String) (entry : Entry) : Entries :=
  entries ++ [(name, entry)]

/-- Change the table that a path leads to. Tables on the way that are missing come into being in
the form `missing`; those that exist must have a form that `passable` accepts. Of an array of
tables the path enters the latest. -/
def change (passable : Form → Bool) (missing : Form) (action : Form → Entries → Option Entries) :
    List String → Form → Entries → Option Entries
  | [], form, entries => action form entries
  | name :: path, _, entries =>
    match entries.lookup name with
    | none => (change passable missing action path missing []).map fun inner =>
      entries.add name (.table missing inner)
    | some (.table form inner) =>
      if passable form then
        (change passable missing action path form inner).map fun inner =>
          entries.set name (.table form inner)
      else none
    | some (.tables (latest :: earlier)) =>
      (change passable missing action path .opened latest).map fun latest =>
        entries.set name (.tables (latest :: earlier))
    | some (.tables []) => none
    | some (.value _) => none

/-- Give a key a value, in a table that a header opened. -/
def assign (entries : Entries) (key : Key) (value : Toml) : Option Entries :=
  change (· != .opened) .dotted
    (fun form entries =>
      if (form == .dotted) == key.path.isEmpty then none
      else if (entries.lookup key.name).isSome then none
      else some (entries.add key.name (.value value)))
    key.path .opened entries

/-- Open the table of a header. -/
def openTable (entries : Entries) (key : Key) : Option Entries :=
  change (fun _ => true) .implied
    (fun _ entries =>
      match entries.lookup key.name with
      | none => some (entries.add key.name (.table .opened []))
      | some (.table .implied inner) => some (entries.set key.name (.table .opened inner))
      | some _ => none)
    key.path .opened entries

/-- Open one more table of an array of tables. -/
def openElement (entries : Entries) (key : Key) : Option Entries :=
  change (fun _ => true) .implied
    (fun _ entries =>
      match entries.lookup key.name with
      | none => some (entries.add key.name (.tables [[]]))
      | some (.tables elements) => some (entries.set key.name (.tables ([] :: elements)))
      | some _ => none)
    key.path .opened entries

mutual

/-- The value that an entry amounts to. -/
def entryValue : Entry → Toml
  | .value value => value
  | .table _ entries => .table (values entries)
  | .tables elements => .array (elementValues elements).reverse

/-- The entries of a table as values. -/
def values : List (String × Entry) → List (String × Toml)
  | [] => []
  | (name, entry) :: rest => (name, entryValue entry) :: values rest

/-- The elements of an array of tables as values. -/
def elementValues : List (List (String × Entry)) → List Toml
  | [] => []
  | entries :: rest => .table (values entries) :: elementValues rest

end

/-- The table that keys and values make up on their own, as in an inline table. -/
def ofPairs? (pairs : List (Key × Toml)) : Option Entries :=
  pairs.foldlM (fun entries (key, value) => entries.assign key value) []

end Entries

end DiagnosticRelay.Toml
