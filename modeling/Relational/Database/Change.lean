import Relational.Database.Rules

/-!
# Changing a database

Every change is checked, then written to the directory, then made in memory. A change that is rejected, or whose
writing fails, leaves the tables as they were. What a failed change has written before it failed stays written.
-/

namespace Relational.Database

open Text

/-- What a change answers, and the database after it. -/
abbrev Outcome (α : Type) := Except Failure α × Database

/-- Writes a table to the directory, if there is one. -/
def persist (db : Database) (s : Schema) (rows : List (List Cell)) : Outcome Unit :=
  match db.directory with
  | none => (.ok (), db)
  | some d =>
    let (written, d) := Storage.save s rows d
    (written, { db with directory := some d })

/-- The schema as it is written: with its number of rows and the present moment. -/
def stamped (s : Schema) (rows : List (List Cell)) (now : Timestamp) : Schema :=
  { s with
    rowCount := rows.length
    modifiedAt := now
    written := s.written.filter fun entry => entry.1 != "rowCount" }

/-! ## Tables -/

/-- Adds a table without rows. -/
def addTable (db : Database) (now : Timestamp) (s : Schema) : Outcome Unit :=
  if db.hasTable s.name then (reject (.tableExists s.name), db)
  else
    let s := stamped s [] now
    match db.persist s [] with
    | (.ok (), db) => (.ok (), db.setTable (keyOf s.name) ⟨s, some s.noContent⟩)
    | failed => failed

/-- The first other table that refers to the table under a key. -/
def referrer? (db : Database) (key : String) : Option Table :=
  (db.tables.find? fun (other, t) =>
    other != key && t.schema.foreignKeys.any fun entry => keyOf entry.2.refTable == key).map Prod.snd

/-- Removes a table with its files. Nothing may refer to it but itself. -/
def removeTable (db : Database) (name : String) : Outcome Unit :=
  let key := keyOf name
  match db.table name with
  | .error failure => (.error failure, db)
  | .ok t =>
    match db.referrer? key with
    | some other => (reject (.tableReferenced t.schema.name other.schema.name), db)
    | none =>
      match db.directory with
      | none => (t.loaded.map fun _ => (), db.dropTable key)
      | some d =>
        match Storage.delete t.schema.name d with
        | (.ok (), d) => (t.loaded.map fun _ => (), { db.dropTable key with directory := some d })
        | (.error failure, d) => (.error failure, { db with directory := some d })

/-! ## Rows -/

/-- The cells given for a row: all of them in order, or some with their columns. -/
inductive RowInput where
  | cells (texts : List String)
  | named (entries : List (String × String))
  deriving Repr, DecidableEq

/-- A new row; columns without a text are NULL. -/
def RowInput.toRow (s : Schema) : RowInput → List String
  | .cells texts => texts
  | .named entries => Storage.arrange nullText s.columnNames entries

/-- A row with new texts in the named columns. -/
def assignCells (s : Schema) : List (String × String) → List Cell → Except Failure (List Cell)
  | [], row => .ok row
  | (column, text) :: entries, row =>
    match s.position? column with
    | some i => assignCells s entries (row.set i (.text text))
    | none => reject (.noColumn column s.name)

/-- A row in the place of another. -/
def RowInput.onRow (s : Schema) (row : List Cell) : RowInput → Except Failure (List String)
  | .cells texts => .ok texts
  | .named entries => do Cell.texts (← assignCells s entries row)

/-- Makes `rows` the rows of the table under a key. -/
def commitRows (db : Database) (now : Timestamp) (key : String) (t : Table) (content : Content)
    (rows : List (List Cell)) : Outcome Unit :=
  let s := stamped t.schema rows now
  match content.withRows s rows with
  | .error failure => (.error failure, db)
  | .ok content =>
    match db.persist s rows with
    | (.ok (), db) => (.ok (), db.setTable key ⟨s, some content⟩)
    | failed => failed

/-- The stored form of a row that the table takes. -/
def storedRow (s : Schema) (now : Timestamp) (row : List String) : Except Failure (List String) := do
  s.validateRow now row
  s.encodeRow row

/-- Appends a row and answers its position. -/
def insertRow (db : Database) (now : Timestamp) (name : String) (input : RowInput) : Outcome Nat :=
  let checked : Except Failure (Table × Content × List String) := do
    let t ← db.table name
    let row ← storedRow t.schema now (input.toRow t.schema)
    checkTogether [checkKeys t row none, checkReferences db t.schema row]
    pure (t, ← t.loaded, row)
  match checked with
  | .error failure => (.error failure, db)
  | .ok (t, content, row) =>
    let (written, db) := db.commitRows now (keyOf name) t content (content.rows ++ [Cell.ofTexts row])
    (written.map fun _ => content.rows.length, db)

/-- The content of a table and its row at a position. -/
def rowAt (t : Table) (position : Int) : Except Failure (Content × Nat × List Cell) := do
  let content ← t.loaded
  match position with
  | .ofNat i =>
    match content.rows[i]? with
    | some row => pure (content, i, row)
    | none => reject .noRow
  | .negSucc _ => reject .noRow

/-- Puts a row in the place of the one at a position. -/
def updateRow (db : Database) (now : Timestamp) (name : String) (position : Int) (input : RowInput) :
    Outcome Nat :=
  let checked : Except Failure (Table × Content × Nat × List String) := do
    let t ← db.table name
    let (content, i, old) ← rowAt t position
    let row ← storedRow t.schema now (← input.onRow t.schema old)
    checkTogether [checkKeys t row (some i), checkReferences db t.schema row,
      checkNotReferenced db (keyOf name) t.schema old i (some row)]
    pure (t, content, i, row)
  match checked with
  | .error failure => (.error failure, db)
  | .ok (t, content, i, row) =>
    let (written, db) := db.commitRows now (keyOf name) t content (content.rows.set i (Cell.ofTexts row))
    (written.map fun _ => i, db)

/-- Removes the row at a position; the rows after it move up. -/
def deleteRow (db : Database) (now : Timestamp) (name : String) (position : Int) : Outcome Nat :=
  let checked : Except Failure (Table × Content × Nat) := do
    let t ← db.table name
    let (content, i, old) ← rowAt t position
    checkNotReferenced db (keyOf name) t.schema old i none
    pure (t, content, i)
  match checked with
  | .error failure => (.error failure, db)
  | .ok (t, content, i) =>
    let (written, db) := db.commitRows now (keyOf name) t content (content.rows.eraseIdx i)
    (written.map fun _ => i, db)

/-! ## Indexes -/

/-- The first key that more than one row has. -/
def duplicateKey? (index : Index) : Option (List String) :=
  index.keys.find? fun key => 1 < (index.search key).length

/-- Declares an index on columns of a table and fills it. A unique one needs rows that differ. -/
def createIndex (db : Database) (now : Timestamp) (name index : String) (columns : List String) (unique : Bool) :
    Outcome Unit :=
  let checked : Except Failure (Table × Content × Schema × Index) := do
    let t ← db.table name
    if let some column := columns.find? fun column => !t.schema.hasColumn column then
      reject (.noColumn column t.schema.name)
    let content ← t.loaded
    if (content.indexes.lookup (lower index)).isSome then reject (.indexExists index t.schema.name)
    let spelled := columns.filterMap fun column => (t.schema.column? column).map Column.name
    let filled ← t.schema.fillIndex content.rows (.empty index spelled unique)
    if unique then
      if let some key := duplicateKey? filled then reject (.indexDuplicate index key)
    pure (t, content, ← t.schema.addIndex index columns unique, filled)
  match checked with
  | .error failure => (.error failure, db)
  | .ok (t, content, s, filled) =>
    let key := keyOf name
    let s := stamped s content.rows now
    match db.persist s content.rows with
    | (.ok (), db) =>
      (.ok (), db.setTable key ⟨s, some { content with indexes := setEntry (lower index) filled content.indexes }⟩)
    | (.error failure, db) =>
      (.error failure, db.setTable key { t with schema := stamped t.schema content.rows now })

/-! ## Loading and saving -/

/-- Loads tables one after the other. -/
def loadTables (now : Timestamp) (d : Directory) : List String → Database → Outcome Unit
  | [], db => (.ok (), db)
  | name :: names, db =>
    match Storage.loadSchema now d name with
    | .error failure => (.error failure, db)
    | .ok none => loadTables now d names db
    | .ok (some s) =>
      match Storage.loadRows d s with
      | .error failure => (.error failure, db.setTable (keyOf s.name) ⟨s, none⟩)
      | .ok rows =>
        match s.noContent.withRows s rows with
        | .error failure => (.error failure, db.setTable (keyOf s.name) ⟨s, some ⟨rows, s.emptyIndexes⟩⟩)
        | .ok content => loadTables now d names (db.setTable (keyOf s.name) ⟨s, some content⟩)

/-- Loads all tables of the directory in place of those in memory. -/
def loadAll (db : Database) (now : Timestamp) : Outcome Unit :=
  match db.directory with
  | none => (.ok (), db)
  | some d => loadTables now d (Storage.tables d) (empty (some d))

/-- A database with the tables of a directory. -/
def ofDirectory (d : Directory) (now : Timestamp) : Except Failure Database :=
  match loadAll (empty (some d)) now with
  | (.ok (), db) => .ok db
  | (.error failure, _) => .error failure

/-- Writes tables one after the other. -/
def saveTables (now : Timestamp) : List (String × Table) → Database → Outcome Unit
  | [], db => (.ok (), db)
  | (key, t) :: rest, db =>
    match t.loaded with
    | .error failure => (.error failure, db)
    | .ok content =>
      let s := stamped t.schema content.rows now
      match (db.setTable key { t with schema := s }).persist s content.rows with
      | (.ok (), db) => saveTables now rest db
      | failed => failed

/-- Writes all tables to the directory. -/
def saveAll (db : Database) (now : Timestamp) : Outcome Unit :=
  saveTables now db.tables db

end Relational.Database
