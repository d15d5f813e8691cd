import ImportCensus.Toml.Value
/-!
# Tables from statements

A document is a list of statements: headers, which open a table, and assignments.  A table may
be opened once by a header, and may be made on the way by longer headers or by dotted keys; each
kind of table says what may still be added to it.
-/

namespace ImportCensus.Toml

inductive Statement
  /-- `[path]` opens a table. -/
  | header (path : List Text)
  /-- `[[path]]` opens one more table of an array. -/
  | element (path : List Text)
  /-- `path = value`, within the table opened last. -/
  | assign (path : List Text) (value : Value)

inductive TableKind
  /-- By a header, or as the document itself. -/
  | opened
  /-- On the way of a longer header. -/
  | passed
  /-- By a dotted key. -/
  | dotted
  deriving DecidableEq

/-- What a key of a document stands for while it is read. -/
inductive Entry
  | value (v : Value)
  | table (kind : TableKind) (entries : List (Text × Entry))
  /-- An array of tables that headers opened. -/
  | tables (items : List (List (Text × Entry)))

abbrev Entries := List (Text × Entry)

structure Table where
  kind : TableKind
  entries : Entries

def setEntry (key : Text) (entry : Entry) : Entries → Entries
  | [] => [(key, entry)]
  | (k, old) :: rest =>
    if k = key then (key, entry) :: rest else (k, old) :: setEntry key entry rest

/-- Changes the table that a path leads to.  Tables that are not there are made with the kind
`made`; of an array of tables the last one counts.  A dotted key leads through no table that a
header opened. -/
def alter (made : TableKind) (change : Table → Except Fault Entries) :
    List Text → Table → Except Fault Entries
  | [], t => change t
  | key :: rest, t =>
    match t.entries.lookup key with
    | none => do
      let inner ← alter made change rest ⟨made, []⟩
      .ok (setEntry key (.table made inner) t.entries)
    | some (.value _) => .error (.notATable key)
    | some (.table kind entries) =>
      if made = .dotted && kind = .opened then .error (.duplicateKey key)
      else do
        let inner ← alter made change rest ⟨kind, entries⟩
        .ok (setEntry key (.table kind inner) t.entries)
    | some (.tables items) =>
      match items.getLast? with
      | none => .error (.notATable key)
      | some entries => do
        let inner ← alter made change rest ⟨.opened, entries⟩
        .ok (setEntry key (.tables (items.dropLast ++ [inner])) t.entries)

/-- Gives a key of a table its value.  A dotted key ends in a table that dotted keys made. -/
def assignKey (dottedKey : Bool) (key : Text) (value : Value) (t : Table) :
    Except Fault Entries :=
  if dottedKey && t.kind != .dotted then .error (.duplicateKey key)
  else
    match t.entries.lookup key with
    | none => .ok (t.entries ++ [(key, .value value)])
    | some _ => .error (.duplicateKey key)

def assign (path : List Text) (value : Value) (t : Table) : Except Fault Entries :=
  match path.getLast? with
  | none => .error .noKey
  | some key => alter .dotted (assignKey (1 < path.length) key value) path.dropLast t

def openTable (key : Text) (t : Table) : Except Fault Entries :=
  match t.entries.lookup key with
  | none => .ok (t.entries ++ [(key, .table .opened [])])
  | some (.table .passed entries) => .ok (setEntry key (.table .opened entries) t.entries)
  | some _ => .error (.duplicateKey key)

def openElement (key : Text) (t : Table) : Except Fault Entries :=
  match t.entries.lookup key with
  | none => .ok (t.entries ++ [(key, .tables [[]])])
  | some (.tables items) => .ok (setEntry key (.tables (items ++ [[]])) t.entries)
  | some _ => .error (.duplicateKey key)

/-- A document that is being read: its entries, and the path of the table opened last. -/
structure Draft where
  entries : Entries := []
  position : List Text := []

def Draft.add (d : Draft) : Statement → Except Fault Draft
  | .header path =>
    match path.getLast? with
    | none => .error .noKey
    | some key => do
      let entries ← alter .passed (openTable key) path.dropLast ⟨.opened, d.entries⟩
      .ok ⟨entries, path⟩
  | .element path =>
    match path.getLast? with
    | none => .error .noKey
    | some key => do
      let entries ← alter .passed (openElement key) path.dropLast ⟨.opened, d.entries⟩
      .ok ⟨entries, path⟩
  | .assign path value => do
    let entries ← alter .passed (assign path value) d.position ⟨.opened, d.entries⟩
    .ok ⟨entries, d.position⟩

mutual

def Entry.toValue : Entry → Value
  | .value v => v
  | .table _ entries => .table (entryValues entries)
  | .tables items => .array (itemValues items)

def entryValues : List (Text × Entry) → List (Text × Value)
  | [] => []
  | (key, entry) :: rest => (key, entry.toValue) :: entryValues rest

def itemValues : List (List (Text × Entry)) → List Value
  | [] => []
  | entries :: rest => .table (entryValues entries) :: itemValues rest

end

def ofStatements (statements : List Statement) : Except Fault (List (Text × Value)) := do
  let d ← statements.foldlM Draft.add {}
  .ok (entryValues d.entries)

def inlineTable (pairs : List (List Text × Value)) : Except Fault Value := do
  let entries ← pairs.foldlM
    (fun entries (path, value) => assign path value ⟨.opened, entries⟩) ([] : Entries)
  .ok (.table (entryValues entries))

end ImportCensus.Toml
