import Relational.Index
import Relational.Storage

/-!
# Databases

A database holds tables in the order of their creation, found by their names in any case, and perhaps a
directory in which every change is written down. Each table has its definition, its rows in order, and indexes
for the primary key, for each rule of uniqueness, and for each index declared. The position of a row is its
number.

This module defines the state and what can be asked of it.
-/

namespace Relational

open Text

/-- The rows of a table, and its indexes under their names in small letters. -/
structure Content where
  rows : List (List Cell)
  indexes : List (String × Index)
  deriving Repr, DecidableEq

/-- A table. It has no content if its rows could not be loaded. -/
structure Table where
  schema : Schema
  content : Option Content
  deriving Repr, DecidableEq

/-- A database. Tables stand under their names in small letters. -/
structure Database where
  tables : List (String × Table)
  directory : Option Directory
  deriving Repr, DecidableEq

/-! ## Indexes of a table -/

namespace Schema

/-- The name of the index of the primary key. -/
def primaryKeyIndex : String := "__primary_key__"

/-- The index of the primary key, if the table has one. -/
def keyIndexes (s : Schema) : List (String × Index) :=
  if s.primaryKey.isEmpty then [] else [(primaryKeyIndex, .empty primaryKeyIndex s.primaryKey true)]

/-- The indexes of a table without their entries. Of two with one name the later takes the place of the
earlier: first the primary key, then the rules of uniqueness, then the declared indexes. -/
def emptyIndexes (s : Schema) : List (String × Index) :=
  collectEntries (s.keyIndexes
    ++ s.uniqueKeys.map (fun (name, columns) => (lower name, .empty name columns true))
    ++ s.indexes.map (fun (name, spec) => (lower name, .empty name spec.columns spec.unique)))

/-- The positions of columns. -/
def positions (s : Schema) (columns : List String) : List Nat :=
  columns.filterMap s.position?

/-- What a row holds in some columns. -/
def cells {α : Type} (s : Schema) (columns : List String) (row : List α) : List α :=
  Index.keyAt (s.positions columns) row

/-- An index with the entries for all rows. -/
def fillIndex (s : Schema) (rows : List (List Cell)) (index : Index) : Except Failure Index := do
  pure (index.ofKeys (← rows.mapM fun row => Cell.keyTexts (s.cells index.columns row)))

/-- Indexes with the entries for all rows. -/
def fillIndexes (s : Schema) (rows : List (List Cell)) (indexes : List (String × Index)) :
    Except Failure (List (String × Index)) :=
  indexes.mapM fun (name, index) => do pure (name, ← s.fillIndex rows index)

/-- No rows, with the indexes of a table. -/
def noContent (s : Schema) : Content :=
  ⟨[], s.emptyIndexes⟩

end Schema

/-- Rows in place of those of a content, with every index filled again. -/
def Content.withRows (content : Content) (s : Schema) (rows : List (List Cell)) : Except Failure Content := do
  pure ⟨rows, ← s.fillIndexes rows content.indexes⟩

/-- The first index whose columns are the given ones, in order. -/
def Content.indexOn? (content : Content) (columns : List String) : Option Index :=
  (content.indexes.find? fun entry => entry.2.columns.map lower == columns.map lower).map Prod.snd

namespace Table

/-- The rows. -/
def rows (t : Table) : List (List Cell) :=
  (t.content.map Content.rows).getD []

/-- The content, which a table that was not loaded lacks. -/
def loaded (t : Table) : Except Failure Content :=
  match t.content with
  | some content => .ok content
  | none => fail (.missingKey (lower t.schema.name))

/-- The first index whose columns are the given ones, in order. -/
def indexOn? (t : Table) (columns : List String) : Option Index :=
  t.content.bind fun content => content.indexOn? columns

/-- The positions of the rows with given cells, found by looking at each row. -/
def scan (s : Schema) (columns key : List String) (rows : List (List Cell)) : List Nat :=
  rows.zipIdx.filterMap fun (row, i) => if s.cells columns row == Cell.ofTexts key then some i else none

/-- The positions of the rows with given cells, found by an index if there is one. -/
def findRows (t : Table) (columns key : List String) : Except Failure (List Nat) := do
  let content ← t.loaded
  pure (match content.indexOn? columns with
    | some index => index.search key
    | none => scan t.schema columns key content.rows)

end Table

namespace Database

/-- A database without tables. -/
def empty (directory : Option Directory) : Database :=
  ⟨[], directory⟩

/-! ## Tables -/

/-- The key under which a table stands. -/
def keyOf (name : String) : String :=
  lower name

/-- A table by its name. -/
def table? (db : Database) (name : String) : Option Table :=
  db.tables.lookup (keyOf name)

/-- A table by its name; without one the change is rejected. -/
def table (db : Database) (name : String) : Except Failure Table :=
  match db.table? name with
  | some t => .ok t
  | none => reject (.noTable name)

/-- There is a table of the name. -/
def hasTable (db : Database) (name : String) : Bool :=
  (db.table? name).isSome

/-- The database with a table in the place of the one with its key, or after the others. -/
def setTable (db : Database) (key : String) (t : Table) : Database :=
  { db with tables := setEntry key t db.tables }

/-- The database without the table under a key. -/
def dropTable (db : Database) (key : String) : Database :=
  { db with tables := removeEntry key db.tables }

/-- The names of the tables in order. -/
def tableNames (db : Database) : List String :=
  (db.tables.map fun entry => entry.2.schema.name).mergeSort (· ≤ ·)

/-- The number of rows of each table. -/
def rowCounts (db : Database) : Except Failure (List (String × Nat)) :=
  db.tables.mapM fun (_, t) => do pure (t.schema.name, (← t.loaded).rows.length)

/-- The rows of a table; none of a table that is not there. -/
def rows (db : Database) (name : String) : List (List Cell) :=
  ((db.table? name).map Table.rows).getD []

/-- The rows of a table, each with the names of its columns. -/
def namedRows (db : Database) (name : String) : Except Failure (List (List (String × Cell))) :=
  match db.table? name with
  | none => .ok []
  | some t => do (← t.loaded).rows.mapM (Storage.nameCells t.schema.columnNames)

/-- An index of a table on exactly the given columns, in order. -/
def indexOn? (db : Database) (name : String) (columns : List String) : Option Index :=
  (db.table? name).bind fun t => t.indexOn? columns

/-- A cell as an integer, if it has a reading as one. -/
def cellInteger? : Cell → Except Failure (Option Int)
  | .text s => .ok (Decimal.readInteger? s)
  | .other (.int n) => .ok (some n)
  | .other (.bool b) => .ok (some (if b then 1 else 0))
  | .other (.real x) => if x.isNaN then .ok none else (Value.integerOfReal x).map some
  | .other _ => fail .malformed

/-- One more than the largest integer in a column, and at least one. -/
def nextNumber (db : Database) (name column : String) : Except Failure Int :=
  match db.table? name with
  | none => .ok 1
  | some t =>
    match t.schema.position? column with
    | none => .ok 1
    | some i => do
      let content ← t.loaded
      let numbers ← (content.rows.filterMap fun row => row[i]?).mapM cellInteger?
      pure ((numbers.filterMap id).foldl max 0 + 1)

/-- The database in short. -/
def summary (db : Database) : String :=
  "TableManager(" ++ Decimal.natText db.tables.length ++ " tables)"

end Database

end Relational
