import Relational.Database.Change
import Relational.Execution.Result
import Relational.Sql.Parser

/-!
# Statements that declare

CREATE TABLE, DROP TABLE and CREATE INDEX. A table is put together clause by clause: the columns, the primary
key, UNIQUE, the foreign keys of columns before those of the table, and CHECK. A constraint without a name gets
one from its kind, the table, and its columns or its number.
-/

namespace Relational.Execution

open Database (Outcome)

/-! ## Columns -/

/-- A number among the parameters of a type. -/
def typeNumber (column text : String) : Except Failure Nat :=
  if Sql.Parser.isDigitText text then
    match Decimal.readInteger? text with
    | some n => .ok n.toNat
    | none => fail (.value (.integer text))
  else refuse (.schema (.typeParameter text column))

/-- A number among the parameters, if there are so many. -/
def typeNumber? (column : String) : Option String → Except Failure (Option Int)
  | some text => do pure (some (Int.ofNat (← typeNumber column text)))
  | none => .ok none

/-- A column with the parameters of its type: a length, a precision and a scale, or the values of an ENUM. -/
def withParameters (params : List String) (column : Column) : Except Failure Column := do
  if column.type.hasLength then
    pure { column with maxLength := ← typeNumber? column.name params[0]? }
  else if column.type.isDecimal then
    let precision ← typeNumber? column.name params[0]?
    let scale ← typeNumber? column.name params[1]?
    pure { column with precision := precision, scale := scale }
  else if column.type == .enum then pure { column with choices := params }
  else pure column

/-- A condition can be read; an empty text stands for none. -/
def checkReadable : Option String → Except Failure Unit
  | some text => if text.isEmpty then .ok () else (Condition.compile text).map fun _ => ()
  | none => .ok ()

/-- The column of a clause. -/
def column (clause : Sql.ColumnClause) : Except Failure Column := do
  let type ← Column.readType clause.typeName
  let column ← withParameters clause.typeParams
    { name := clause.name, type := type, primaryKey := clause.primaryKey, unique := clause.unique,
      notNull := clause.notNull, autoIncrement := clause.autoIncrement, default := clause.default,
      check := clause.check, refTable := clause.references.map Sql.Reference.refTable,
      refColumn := clause.references.bind fun fk => fk.refColumns.head? }
  checkReadable clause.check
  column.declare

/-! ## Constraints -/

/-- The name of a constraint over columns that was given none. -/
def nameOver (kind table : String) (columns : List String) : String :=
  kind ++ "_" ++ table ++ "_" ++ "_".intercalate columns

/-- The table that a reference of `s` names, which may be `s` itself. -/
def parent (db : Database) (s : Schema) (table : String) : Except Failure Schema :=
  if Text.sameName table s.name then .ok s
  else
    match db.table? table with
    | some t => .ok t.schema
    | none => refuse (.noTable table)

/-- Adds a foreign key. The columns it refers to have to be there. -/
def addReference (db : Database) (s : Schema) (fk : Sql.Reference) : Except Failure Schema := do
  let target ← parent db s fk.refTable
  if let some missing := fk.refColumns.find? fun name => !target.hasColumn name then
    refuse (.noColumn missing (some fk.refTable))
  let onDelete ← CascadeAction.read fk.onDelete
  let onUpdate ← CascadeAction.read fk.onUpdate
  s.addForeignKey (fk.name.getD (nameOver "fk" s.name fk.columns))
    ⟨fk.columns, target.name, fk.refColumns, onDelete, onUpdate⟩

/-- Adds a UNIQUE clause. -/
def addUnique (s : Schema) (clause : Sql.UniqueClause) : Except Failure Schema :=
  s.addUnique (clause.name.getD (nameOver "uq" s.name clause.columns)) clause.columns

/-- Adds the CHECK clause with a number, counted from one. -/
def addCheck (s : Schema) (clause : Sql.CheckClause × Nat) : Except Failure Schema :=
  s.addCheck (clause.1.name.getD ("chk_" ++ s.name ++ "_" ++ Decimal.natText clause.2)) clause.1.condition

/-- Adds the primary key, if there is one. -/
def addPrimaryKey (s : Schema) (columns : List String) : Except Failure Schema :=
  if columns.isEmpty then .ok s else s.addPrimaryKey columns

/-- The references in a statement: those of columns, then those of the table. -/
def references (statement : Sql.CreateTable) : List Sql.Reference :=
  statement.columns.filterMap Sql.ColumnClause.references ++ statement.foreignKeys

/-- The table that a statement declares. -/
def schema (db : Database) (now : Timestamp) (statement : Sql.CreateTable) : Except Failure Schema := do
  let s ← Schema.create statement.table "" false now
  let s ← statement.columns.foldlM (fun s clause => do s.addColumn (← column clause)) s
  let s ← addPrimaryKey s statement.primaryKey
  let s ← statement.uniques.foldlM addUnique s
  let s ← (references statement).foldlM (addReference db) s
  (statement.checks.zipIdx 1).foldlM addCheck s

/-! ## Statements -/

/-- A change that succeeds with words. -/
def saying {α : Type} (message : String) (outcome : Outcome α) : Outcome Result :=
  (outcome.1.map fun _ => .done message, outcome.2)

/-- CREATE TABLE. -/
def createTable (db : Database) (now : Timestamp) (statement : Sql.CreateTable) : Outcome Result :=
  if db.hasTable statement.table then
    if statement.ifNotExists then (.ok (.done ("Table '" ++ statement.table ++ "' already exists")), db)
    else (refuse (.tableExists statement.table), db)
  else
    match schema db now statement with
    | .ok s => saying ("Table '" ++ s.name ++ "' created") (db.addTable now s)
    | .error failure => (.error failure, db)

/-- DROP TABLE. -/
def dropTable (db : Database) (table : String) (ifExists : Bool) : Outcome Result :=
  if db.hasTable table then saying ("Table '" ++ table ++ "' dropped") (db.removeTable table)
  else if ifExists then (.ok (.done ("Table '" ++ table ++ "' does not exist")), db)
  else (refuse (.noTable table), db)

/-- CREATE INDEX. -/
def createIndex (db : Database) (now : Timestamp) (statement : Sql.CreateIndex) : Outcome Result :=
  if db.hasTable statement.table then
    saying ("Index '" ++ statement.index ++ "' created")
      (db.createIndex now statement.table statement.index statement.columns statement.unique)
  else (refuse (.noTable statement.table), db)

end Relational.Execution
