import Relational.Cell
import Relational.Directory
import Relational.Schema.Document

/-!
# Tables in a directory

A table is kept in two files. `<table>_schema.json` holds its definition, `<table>.json` its rows, each row an
object with a cell for every column. A table is there as soon as its definition is. Each file is written as a
whole.
-/

namespace Relational.Storage

open Text

/-- The end of the name of a definition. -/
def schemaSuffix : String := "_schema.json"

/-- The end of the name of a file of rows. -/
def rowsSuffix : String := ".json"

/-- The file of a definition. -/
def schemaFile (table : String) : String :=
  table ++ schemaSuffix

/-- The file of the rows. -/
def rowsFile (table : String) : String :=
  table ++ rowsSuffix

/-- A file cannot be read or written. -/
def inaccessible {α : Type} (d : Directory) (file : String) : Except Failure α :=
  refuse (.storage (d.pathOf file) .inaccessible)

/-! ## Rows as documents -/

/-- A row as an object. -/
def rowJson (names : List String) (row : List Cell) : Json :=
  .object ((names.zip row).map fun (name, cell) => (name, cell.toJson))

/-- The rows of a table as a document. -/
def rowsJson (s : Schema) (rows : List (List Cell)) : Json :=
  .object [("tableName", .text s.name), ("rowCount", .int rows.length),
    ("rows", .list (rows.map (rowJson s.columnNames)))]

/-- What stands under the names of columns, found in any case; of several the last counts, and `missing` stands in
for what is not there. -/
def arrange {α : Type} (missing : α) (names : List String) (cells : List (String × α)) : List α :=
  let found := cells.reverse.map fun (name, cell) => (lower name, cell)
  names.map fun name => (found.lookup (lower name)).getD missing

/-- The cells of a row under the names of columns; of two columns of one name the later counts. -/
def nameCells {α : Type} (names : List String) (row : List α) : Except Failure (List (String × α)) :=
  if row.length < names.length then fail .position else .ok (collectEntries (names.zip row))

/-- Reads a row; a column without an entry is NULL. -/
def readRow (names : List String) (document : Json) : Except Failure (List Cell) := do
  pure ((arrange (.text nullText) names (← document.entries)).map Cell.ofJson)

/-- Reads the rows of a document. -/
def readRows (names : List String) (document : Json) : Except Failure (List (List Cell)) := do
  let rows ← document.fieldOr "rows" Json.items []
  rows.mapM (readRow names)

/-! ## Reading -/

/-- The document in a file. -/
def readDocument (d : Directory) (file : String) : Except Failure Json :=
  match (d.read? file).bind Json.parse? with
  | some document => .ok document
  | none => inaccessible d file

/-- A failure to read a definition, as the storage reports it. -/
def invalidSchema (d : Directory) (file : String) : Failure → Failure
  | .refusal cause => .refusal (.storage (d.pathOf file) (.invalidSchema cause.message))
  | .fault (.value cause) => .refusal (.storage (d.pathOf file) (.invalidSchema cause.message))
  | .fault (.missingKey key) => .refusal (.storage (d.pathOf file) (.invalidSchema (Fault.missingKey key).message))
  | failure => failure

/-- The definition of a table, if it has one. -/
def loadSchema (now : Timestamp) (d : Directory) (table : String) : Except Failure (Option Schema) :=
  let file := schemaFile table
  if d.exists? file then do
    let document ← readDocument d file
    match Schema.ofJson now document with
    | .ok s => pure (some s)
    | .error failure => .error (invalidSchema d file failure)
  else .ok none

/-- The rows of a table; without a file there are none. -/
def loadRows (d : Directory) (s : Schema) : Except Failure (List (List Cell)) :=
  let file := rowsFile s.name
  if d.exists? file then do readRows s.columnNames (← readDocument d file)
  else .ok []

/-- The name of the table of a definition. -/
def tableOf? (file : String) : Option String :=
  let cs := file.toList
  let suffix := schemaSuffix.toList
  if suffix.isSuffixOf cs then some (String.ofList (cs.take (cs.length - suffix.length))) else none

/-- The tables that have a definition, in order. -/
def tables (d : Directory) : List String :=
  ((d.entries.map Prod.fst).filterMap tableOf?).mergeSort (· ≤ ·)

/-- The table has a definition. -/
def hasTable (d : Directory) (table : String) : Bool :=
  d.exists? (schemaFile table)

/-! ## Writing -/

/-- Writes a document. -/
def writeDocument (d : Directory) (file : String) (document : Json) : Except Failure Unit × Directory :=
  match d.write? file document.print with
  | some d => (.ok (), d)
  | none => (inaccessible d file, d)

/-- Removes a file. -/
def removeFile (d : Directory) (file : String) : Except Failure Unit × Directory :=
  match d.remove? file with
  | some d => (.ok (), d)
  | none => (inaccessible d file, d)

/-- One step, and another if the first succeeds. -/
def andThen (first second : Directory → Except Failure Unit × Directory) (d : Directory) :
    Except Failure Unit × Directory :=
  match first d with
  | (.ok (), d) => second d
  | failed => failed

/-- Writes a table, its rows first. -/
def save (s : Schema) (rows : List (List Cell)) (d : Directory) : Except Failure Unit × Directory :=
  andThen (fun d => writeDocument d (rowsFile s.name) (rowsJson s rows))
    (fun d => writeDocument d (schemaFile s.name) s.toJson) d

/-- Removes the files of a table, its definition first. -/
def delete (table : String) (d : Directory) : Except Failure Unit × Directory :=
  andThen (fun d => removeFile d (schemaFile table)) (fun d => removeFile d (rowsFile table)) d

end Relational.Storage
