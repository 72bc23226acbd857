import Relational.Column

/-!
# Table definitions

A schema holds the columns of a table in order and its constraints and indexes, each kind in the order of
declaration. Columns are found in any case. Each declaration is checked when it is added: names have to be
names, constraints have to differ in name, and columns have to exist.
-/

namespace Relational

open Text

/-- The columns of an index, and whether it keeps their values apart. -/
structure IndexSpec where
  columns : List String
  unique : Bool
  deriving Repr, DecidableEq

/-- The definition of a table. One that was read from a document keeps those entries of it that are of an unusual
kind, and writes them again as they were. -/
structure Schema where
  name : String
  description : String
  isTemp : Bool
  columns : List Column
  primaryKey : List String
  uniques : List (String × List String)
  foreignKeys : List (String × ForeignKey)
  checks : List (String × String)
  indexes : List (String × IndexSpec)
  rowCount : Nat
  createdAt : Timestamp
  modifiedAt : Timestamp
  written : List (String × Json)
  deriving Repr, DecidableEq

namespace Schema

/-- A table without columns. -/
def create (name : String) (description : String) (isTemp : Bool) (now : Timestamp) : Except Failure Schema := do
  checkName name
  pure ⟨name, description, isTemp, [], [], [], [], [], [], 0, now, now, []⟩

/-! ## Columns -/

/-- The names of the columns. -/
def columnNames (s : Schema) : List String :=
  s.columns.map Column.name

/-- The position of a column. -/
def position? (s : Schema) (name : String) : Option Nat :=
  s.columns.findIdx? fun column => sameName column.name name

/-- A column by its name. -/
def column? (s : Schema) (name : String) : Option Column :=
  s.columns.find? fun column => sameName column.name name

/-- The table has a column. -/
def hasColumn (s : Schema) (name : String) : Bool :=
  (s.column? name).isSome

/-- Appends a column. One of the primary key joins the key. -/
def addColumn (s : Schema) (column : Column) : Except Failure Schema :=
  if s.hasColumn column.name then refuse (.schema (.duplicateColumn column.name s.name))
  else .ok { s with
    columns := s.columns ++ [column]
    primaryKey := if column.primaryKey then s.primaryKey ++ [column.name] else s.primaryKey }

/-- The names of columns as the table spells them; `what` needs them. -/
def resolve (s : Schema) (what : String) (names : List String) : Except Failure (List String) := do
  if names.isEmpty then refuse (.schema (.noColumns what))
  names.mapM fun name =>
    match s.column? name with
    | some column => pure column.name
    | none => refuse (.schema (.unknownColumn what name s.name))

/-! ## Constraints -/

/-- The names that constraints have. -/
def constraintNames (s : Schema) : List String :=
  s.uniques.map Prod.fst ++ s.foreignKeys.map Prod.fst ++ s.checks.map Prod.fst

/-- A new constraint may have the name. -/
def checkConstraintName (s : Schema) (name : String) : Except Failure Unit := do
  checkName name
  if s.constraintNames.any (sameName name) then refuse (.schema (.duplicateConstraint name s.name))

/-- Declares the primary key in place of an earlier one. -/
def addPrimaryKey (s : Schema) (columns : List String) : Except Failure Schema := do
  let key ← s.resolve "PRIMARY KEY" columns
  let mark (column : Column) := if key.contains column.name then column.inPrimaryKey else column
  pure { s with columns := s.columns.map mark, primaryKey := key }

/-- Declares that the values of columns differ from row to row. -/
def addUnique (s : Schema) (name : String) (columns : List String) : Except Failure Schema := do
  s.checkConstraintName name
  let key ← s.resolve "UNIQUE" columns
  pure { s with uniques := s.uniques ++ [(name, key)] }

/-- Declares a foreign key. Whether the other table and its columns exist is not checked here. -/
def addForeignKey (s : Schema) (name : String) (fk : ForeignKey) : Except Failure Schema := do
  s.checkConstraintName name
  let columns ← s.resolve "FOREIGN KEY" fk.columns
  if columns.length != fk.refColumns.length then refuse (.schema .keyLength)
  pure { s with foreignKeys := s.foreignKeys ++ [(name, { fk with columns := columns })] }

/-- Declares a condition that no row may make false. -/
def addCheck (s : Schema) (name : String) (condition : String) : Except Failure Schema := do
  s.checkConstraintName name
  let _ ← Condition.compile condition
  pure { s with checks := s.checks ++ [(name, condition)] }

/-- A named rule says that the values of the column alone differ. -/
def coversAlone (s : Schema) (column : Column) : Bool :=
  s.uniques.any fun rule =>
    match rule.2 with
    | [name] => sameName name column.name
    | _ => false

/-- Every rule of uniqueness beside the primary key: the named ones, then the columns declared UNIQUE that no
named one covers. -/
def uniqueKeys (s : Schema) : List (String × List String) :=
  s.uniques ++ (s.columns.filter fun column => column.unique && !s.coversAlone column).map fun column =>
    (column.name ++ "_unique", [column.name])

/-- Every constraint, as listings show them. -/
def constraints (s : Schema) : List Constraint :=
  (if s.primaryKey.isEmpty then [] else [.primaryKey ("pk_" ++ s.name) s.primaryKey])
    ++ s.uniqueKeys.map (fun (name, columns) => .unique name columns)
    ++ s.foreignKeys.map (fun (name, fk) => .foreignKey name fk)
    ++ s.checks.map (fun (name, condition) => .check name condition s.columnNames)

/-! ## Indexes -/

/-- Registers an index. -/
def addIndex (s : Schema) (name : String) (columns : List String) (unique : Bool) : Except Failure Schema := do
  checkName name
  if s.indexes.any fun index => sameName index.1 name then refuse (.schema (.duplicateIndex name s.name))
  let key ← s.resolve "INDEX" columns
  pure { s with indexes := s.indexes ++ [(name, ⟨key, unique⟩)] }

/-- Removes an index by its name. -/
def removeIndex (s : Schema) (name : String) : Schema :=
  { s with indexes := s.indexes.eraseP fun index => sameName index.1 name }

/-- The table has an index of a name. -/
def hasIndex (s : Schema) (name : String) : Bool :=
  s.indexes.any fun index => sameName index.1 name

/-! ## Rows -/

/-- The typed values of a row, each under the name of its column, alone and after the name of the table. -/
def rowValues (s : Schema) (row : List String) : List (String × Value) :=
  (s.columns.zip row).flatMap fun (column, text) =>
    let value := Value.ofText column.type text
    [(lower column.name, value), (lower s.name ++ "." ++ lower column.name, value)]

/-- The values of a row as conditions see them. -/
def rowScope (s : Schema) (now : Timestamp) (row : List String) : Scope :=
  .ofValues (s.rowValues row) now

/-- The text of NULL for every text that means NULL. -/
def plainNull (text : String) : String :=
  if isNullText text then nullText else text

/-- Checks the cells of a row, each by its column. -/
def checkCells (now : Timestamp) (context : List (String × Value)) : List (Column × String) → Except Failure Unit
  | [] => .ok ()
  | (column, text) :: cells =>
    match column.validate now context text with
    | .ok () => checkCells now context cells
    | .error (.rejection cause) => reject (.inColumn column.name cause)
    | .error failure => .error failure

/-- A cell of the primary key is NULL or blank. -/
def keyCellMissing (s : Schema) (context : List (String × Value)) (row : List String) (name : String) : Bool :=
  ((context.lookup (lower name)).any Value.isNull)
    || (((s.position? name).bind fun i => row[i]?).any fun text => strip text == "")

/-- Checks a row: its width, its cells, the primary key, the conditions of the table. -/
def validateRow (s : Schema) (now : Timestamp) (row : List String) : Except Failure Unit := do
  if row.length != s.columns.length then reject (.rowWidth s.columns.length row.length)
  let context := s.rowValues (row.map plainNull)
  checkCells now context (s.columns.zip row)
  if let some name := s.primaryKey.find? (s.keyCellMissing context row) then reject (.keyCellNull (some name))
  s.checks.forM fun check => checkCondition check.2 (.ofValues context now)

/-- The stored form of a row. -/
def encodeRow (s : Schema) (row : List String) : Except Failure (List String) :=
  (s.columns.zip row).mapM fun (column, text) => encode column.type column.choices text

/-- The schema as of a later moment. -/
def touch (s : Schema) (now : Timestamp) : Schema :=
  { s with modifiedAt := now }

/-- The schema in short: its name and its columns. -/
def summary (s : Schema) : String :=
  "TableSchema(" ++ s.name ++ ", " ++ displayList s.columnNames ++ ")"

end Schema

end Relational
