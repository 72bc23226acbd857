import Relational.Database.Change
import Relational.Execution.Result
import Relational.Plan
import Relational.Sql.Statement

/-!
# Statements that change rows

INSERT, UPDATE and DELETE work row by row. At the first row that a rule rejects the statement stops; what it
changed before stays changed and is counted. Any other failure is one of the whole statement.
-/

namespace Relational.Execution

open Database (Outcome)

/-! ## Texts of expressions -/

/-- The greatest number of places that a number is written with. -/
def maxPlaces : Nat := 2147483647

/-- A value as a cell of a column: a real number for a decimal column with a scale is rounded to it. -/
def cellText (column : Column) (v : Value) : Except Failure String :=
  match v.payload, column.scale with
  | some (.real x), some scale =>
    if column.type.isDecimal then
      if scale < 0 || Int.ofNat maxPlaces < scale then fail (.value .places)
      else .ok (Decimal.fixedText x scale.toNat)
    else .ok v.toText
  | _, _ => .ok v.toText

/-- The text of an expression for a column. A literal stands as it is written. -/
def expressionText (scope : Scope) (column : Column) : Expr → Except Failure String
  | .literal value => .ok (value.text?.getD nullText)
  | e => do cellText column (← e.evaluate scope)

/-! ## INSERT -/

/-- Puts the texts of expressions into the named cells of a row. -/
def fillCells (s : Schema) (scope : Scope) : List (String × Expr) → List String → Except Failure (List String)
  | [], row => .ok row
  | (name, e) :: cells, row =>
    match s.position? name, s.column? name with
    | some i, some column => do fillCells s scope cells (row.set i (← expressionText scope column e))
    | _, _ => refuse (.noColumn name (some s.name))

/-- Numbers the cell of a column that counts on by itself, if it is NULL. -/
def numberCell (db : Database) (s : Schema) (column : Column) (text : String) : Except Failure String :=
  if column.autoIncrement && Text.upper text == nullText then Decimal.intText <$> db.nextNumber s.name column.name
  else .ok text

/-- The row of a tuple of values for the named columns. The other columns get their defaults. -/
def newRow (db : Database) (now : Timestamp) (s : Schema) (names : List String) (values : List Expr) :
    Except Failure (List String) := do
  if values.length != names.length then refuse (.columnCount names.length values.length)
  let row ← fillCells s (.empty now) (names.zip values) (s.columns.map (Column.defaultText now))
  (s.columns.zip row).mapM fun (column, text) => numberCell db s column text

/-- Inserts tuples one after the other. -/
def insertTuples (now : Timestamp) (s : Schema) (names : List String) (count : Nat) :
    List (List Expr) → Database → Outcome Result
  | [], db => (.ok (.changed count), db)
  | values :: tuples, db =>
    match newRow db now s names values with
    | .error failure => (.error failure, db)
    | .ok row =>
      match db.insertRow now s.name (.cells row) with
      | (.ok _, db) => insertTuples now s names (count + 1) tuples db
      | (.error (.rejection cause), db) => (.ok (.stopped count cause.message), db)
      | (.error failure, db) => (.error failure, db)

/-- The table of a name, which a statement needs. -/
def tableNamed (db : Database) (name : String) : Except Failure Schema :=
  match db.table? name with
  | some t => .ok t.schema
  | none => refuse (.noTable name)

/-- INSERT. -/
def insert (db : Database) (now : Timestamp) (statement : Sql.Insert) : Outcome Result :=
  match tableNamed db statement.table with
  | .error failure => (.error failure, db)
  | .ok s => insertTuples now s (statement.columns.getD s.columnNames) 0 statement.values db

/-! ## Rows of a condition -/

/-- The condition of a clause; an empty text stands for none. -/
def clauseCondition : Option String → Except Failure (Option Condition)
  | some text => if text.isEmpty then .ok none else some <$> Condition.compile text
  | none => .ok none

/-- The rows of a table and the positions of those that a clause selects. -/
def matchingRows (db : Database) (now : Timestamp) (s : Schema) (clause : Option String) :
    Except Failure (List (List Cell) × List Nat) := do
  let rows := db.rows s.name
  let condition ← clauseCondition clause
  pure (rows, ← Plan.matching db now s rows condition)

/-! ## UPDATE -/

/-- The texts that assignments give to a row; of two for one column the later counts. -/
def assignedTexts (s : Schema) (scope : Scope) (assignments : List (String × Expr)) :
    Except Failure (List (String × String)) := do
  let texts ← assignments.mapM fun (name, e) =>
    match s.column? name with
    | some column => do pure (name, ← expressionText scope column e)
    | none => refuse (.noColumn name (some s.name))
  pure (collectEntries texts)

/-- Updates the rows at some positions. Expressions see the rows as they were before the statement. -/
def updateRows (now : Timestamp) (s : Schema) (assignments : List (String × Expr)) (count : Nat) :
    List (Nat × List Cell) → Database → Outcome Result
  | [], db => (.ok (.changed count), db)
  | (position, row) :: rest, db =>
    let assigned := do assignedTexts s (s.rowScope now (← Cell.texts row)) assignments
    match assigned with
    | .error failure => (.error failure, db)
    | .ok texts =>
      match db.updateRow now s.name position (.named texts) with
      | (.ok _, db) => updateRows now s assignments (count + 1) rest db
      | (.error (.rejection cause), db) => (.ok (.stopped count cause.message), db)
      | (.error failure, db) => (.error failure, db)

/-- UPDATE. -/
def update (db : Database) (now : Timestamp) (statement : Sql.Update) : Outcome Result :=
  let found : Except Failure (Schema × List (Nat × List Cell)) := do
    let s ← tableNamed db statement.table
    if let some missing := (statement.assignments.map Prod.fst).find? fun name => !s.hasColumn name then
      refuse (.noColumn missing (some s.name))
    let (rows, positions) ← matchingRows db now s statement.condition
    pure (s, positions.map fun i => (i, rows.getD i []))
  match found with
  | .error failure => (.error failure, db)
  | .ok (s, rows) => updateRows now s statement.assignments 0 rows db

/-! ## DELETE -/

/-- Deletes the rows at some positions, which fall, so that those still to come do not shift. -/
def deleteRows (now : Timestamp) (s : Schema) (count : Nat) : List Nat → Database → Outcome Result
  | [], db => (.ok (.changed count), db)
  | position :: rest, db =>
    match db.deleteRow now s.name position with
    | (.ok _, db) => deleteRows now s (count + 1) rest db
    | (.error (.rejection cause), db) => (.ok (.stopped count cause.message), db)
    | (.error failure, db) => (.error failure, db)

/-- DELETE. -/
def delete (db : Database) (now : Timestamp) (statement : Sql.Delete) : Outcome Result :=
  let found : Except Failure (Schema × List Nat) := do
    let s ← tableNamed db statement.table
    let (_, positions) ← matchingRows db now s statement.condition
    pure (s, positions)
  match found with
  | .error failure => (.error failure, db)
  | .ok (s, positions) => deleteRows now s 0 positions.reverse db

end Relational.Execution
