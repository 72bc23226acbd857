import Relational.Execution.Result
import Relational.Schema
import Relational.Text.Grid

/-!
# Reports

What the shell prints: the rows of a query as a grid with their number, a line for a change, and the definition of
a table.
-/

namespace Relational.Report

open Text

/-- A number of rows. -/
def counted (count : Int) : String :=
  Decimal.intText count ++ (if count = 1 then " row" else " rows")

/-- The rows of a query. Rows that are nothing but lines cannot be shown. -/
def selection (columns : List String) (rows : List (List Cell)) : Except Failure String :=
  if rows.isEmpty then .ok "(0 rows)"
  else
    match (Grid.ofTexts columns (rows.map (·.map Cell.shown))).toText? with
    | some text => .ok (text ++ "\n(" ++ counted rows.length ++ ")")
    | none => fail .position

/-- A change of rows. -/
def change (count : Int) (operation : String) : String :=
  operation ++ " OK, " ++ counted count ++ " affected"

/-- A result, by the first word of the statement in capitals. -/
def result (r : Result) (operation : String) : Except Failure String :=
  if !r.success then .ok ("Error: " ++ r.errorMessage)
  else if operation == "SELECT" then selection r.columns r.rows
  else if ["INSERT", "UPDATE", "DELETE"].contains operation then .ok (change r.affectedRows operation)
  else if r.message.isEmpty then .ok "OK"
  else .ok r.message

/-- The rules of a column. -/
def columnRules (column : Column) : List String :=
  let flags := [(column.primaryKey, "PRIMARY KEY"), (column.unique, "UNIQUE"),
    (!column.nullable && !column.primaryKey, "NOT NULL"), (column.autoIncrement, "AUTO_INCREMENT")]
  flags.filterMap (fun (flag, word) => if flag then some word else none)
    ++ (column.default.map fun text => "DEFAULT " ++ text).toList
    ++ ((column.check.filter fun text => !text.isEmpty).map fun text => "CHECK (" ++ text ++ ")").toList

/-- An index. -/
def index (name : String) (spec : IndexSpec) : String :=
  (if spec.unique then "UNIQUE INDEX " else "INDEX ") ++ name ++ " (" ++ Rejection.listed spec.columns ++ ")"

/-- The name reads as a number. -/
def isNumberName (name : String) : Bool :=
  lower name == "nan" || lower name == "inf"

/-- The names of columns and the side on which they stand. Names all of which read as numbers stand like numbers, on
the right and in small letters. -/
def placedNames (names : List String) : Side × List String :=
  if !names.isEmpty && names.all isNumberName then (.right, names.map lower) else (.left, names)

/-- The columns of a table as a grid. -/
def columnGrid (columns : List Column) : Grid :=
  let (side, names) := placedNames (columns.map Column.name)
  let row (name : String) (column : Column) := [name, column.typeName, Rejection.listed (columnRules column)]
  { Grid.ofTexts ["Column", "Type", "Constraints"] (List.zipWith row names columns) with sides := [side] }

/-- The definition of a table: its columns as a grid, then its constraints and indexes. No column is named like a
line, so the grid can always be drawn. -/
def schema (s : Schema) : String :=
  "\n".intercalate
    (("Table '" ++ s.name ++ "':") :: (columnGrid s.columns).toText?.getD "" ::
      (s.constraints.map (fun c => "  " ++ c.describe) ++ s.indexes.map fun (name, spec) => "  " ++ index name spec))

end Relational.Report
