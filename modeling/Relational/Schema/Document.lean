import Relational.Json.Parser
import Relational.Json.Printer
import Relational.Schema

/-!
# Table definitions as documents

A schema is written as a JSON document with all of its constraints and indexes. Reading one declares them again
in the same order, with the same checks.
-/

namespace Relational.Schema

/-- The schema as a document. -/
def toJson (s : Schema) : Json :=
  .object (Json.restore s.written [("name", .text s.name), ("description", .text s.description),
    ("rowCount", .int s.rowCount), ("isTemp", .bool s.isTemp), ("createdAt", .text s.createdAt.text),
    ("modifiedAt", .text s.modifiedAt.text),
    ("columns", .list (s.columns.map Column.toJson)),
    ("constraints", .object [("primaryKey", .ofTexts s.primaryKey),
      ("unique", .object (s.uniques.map fun (name, columns) => (name, .ofTexts columns))),
      ("foreignKeys", .object (s.foreignKeys.map fun (name, fk) => (name, fk.toJson))),
      ("checks", .object (s.checks.map fun (name, condition) => (name, .text condition)))]),
    ("indexes", .object (s.indexes.map fun (name, index) =>
      (name, .object [("columns", .ofTexts index.columns), ("unique", .bool index.unique)])))])

/-- The text of the document. -/
def toText (s : Schema) : String :=
  s.toJson.print

/-- The moment in an entry; an entry that is missing or counts as false stands for `missing`. -/
def readMoment (key : String) (missing : Timestamp) (document : Json) : Except Failure Timestamp := do
  match (document.field? key).filter Json.isTruthy with
  | none => pure missing
  | some value =>
    match Timestamp.read (← value.asText) with
    | .ok moment => pure moment
    | .error e => fail (.value (.moment e))

/-- The number of rows in a document; any value but a natural number says nothing. -/
def readRowCount (document : Json) : Nat × List (String × Json) :=
  document.reading "rowCount" 0
    (fun value =>
      match value with
      | .int (.ofNat n) => some n
      | _ => none)
    fun _ => 0

/-- A condition; null stands for one that says nothing. -/
def readCheck : Json → Except Failure String
  | .null => refuse (.condition none .blank)
  | value => value.asText

/-- The entry of an index. -/
def readIndex (document : Json) : Except Failure (List String × Bool) := do
  let columns ← (← document.require "columns").names
  pure (columns, (document.flag "unique").1)

/-- Reads a schema. Only its name has to be there; the clock gives the moments that are missing. -/
def ofJson (now : Timestamp) (document : Json) : Except Failure Schema := do
  let name ← (← document.require "name").asName
  let description := document.remark "description"
  let isTemp := document.flag "isTemp"
  let s ← create name description.1 isTemp.1 now
  let rowCount := readRowCount document
  let createdAt ← readMoment "createdAt" now document
  let modifiedAt ← readMoment "modifiedAt" now document
  let s := { s with
    rowCount := rowCount.1
    createdAt := createdAt
    modifiedAt := modifiedAt
    written := description.2 ++ isTemp.2 ++ rowCount.2 }
  let columns ← document.fieldOr "columns" Json.items []
  let s ← columns.foldlM (fun s c => do s.addColumn (← Column.ofJson c)) s
  let rules ← document.fieldOr "constraints" pure (.object [])
  let s ← match ← rules.fieldOr "primaryKey" Json.names [] with
    | [] => pure s
    | columns => s.addPrimaryKey columns
  let uniques ← rules.fieldOr "unique" Json.entries []
  let s ← uniques.foldlM (fun s (name, columns) => do s.addUnique name (← columns.names)) s
  let foreignKeys ← rules.fieldOr "foreignKeys" Json.entries []
  let s ← foreignKeys.foldlM (fun s (name, fk) => do s.addForeignKey name (← ForeignKey.ofJson fk)) s
  let checks ← rules.fieldOr "checks" Json.entries []
  let s ← checks.foldlM (fun s (name, condition) => do s.addCheck name (← readCheck condition)) s
  let indexes ← document.fieldOr "indexes" Json.entries []
  indexes.foldlM (fun s (name, index) => do
    let (columns, unique) ← readIndex index
    s.addIndex name columns unique) s

/-- Reads the text of a document. -/
def ofText (now : Timestamp) (text : String) : Except Failure Schema :=
  match Json.parse? text with
  | some document => ofJson now document
  | none => fail .malformed

end Relational.Schema
