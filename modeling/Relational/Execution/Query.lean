import Relational.Execution.Rows
import Relational.Sorting
import Relational.Sql.Parser

/-!
# Queries

SELECT finds the rows of the condition, sorts them, keeps as many as LIMIT says, and shows the named columns.
-/

namespace Relational.Execution

/-- The value of a row in a column. -/
def cellValue (column : Column) (position : Nat) (row : List Cell) : Except Failure Value := do
  pure (.ofText column.type (← (row.getD position (.text "")).asText))

/-- The first value comes before the second; NULL comes first. -/
def valueBefore (v w : Value) : Except Failure Bool :=
  (v.order w).map (· == .lt)

/-- Rows sorted by one key. Equal rows keep their order. -/
def sortByKey (s : Schema) (rows : List (List Cell)) (key : Sql.OrderKey) : Except Failure (List (List Cell)) :=
  match s.position? key.column, s.column? key.column with
  | some i, some column => do
    let keyed ← rows.mapM fun row => do pure (← cellValue column i row, row)
    let before (row other : Value × List Cell) := valueBefore row.1 other.1
    let sorted ← if key.descending then Sorting.sortFalling before keyed else Sorting.sort before keyed
    pure (sorted.map Prod.snd)
  | _, _ => refuse (.noColumn key.column (some s.name))

/-- Rows sorted by keys: by the last one first, so that the first one decides. -/
def sortRows (s : Schema) (keys : List Sql.OrderKey) (rows : List (List Cell)) :
    Except Failure (List (List Cell)) :=
  keys.reverse.foldlM (sortByKey s) rows

/-- What a row holds under some names, in any case. Of two columns of one name the later counts; `missing` stands in
for a name that is not there. -/
def project {α : Type} (missing : α) (names : List String) (row : List α) (requested : List String) : List α :=
  let columns := (names.map Text.lower).zipIdx.reverse
  requested.map fun name => ((columns.lookup (Text.lower name)).bind fun i => row[i]?).getD missing

/-- The first rows, as many as a limit says. -/
def limited {α : Type} (limit : Option Nat) (rows : List α) : List α :=
  limit.elim rows rows.take

/-- SELECT. -/
def select (db : Database) (now : Timestamp) (statement : Sql.Select) : Except Failure Result := do
  if statement.join.any fun text => !text.isEmpty then refuse (.unsupported .join)
  let s ← tableNamed db statement.table
  let (rows, positions) ← matchingRows db now s statement.condition
  let sorted ← sortRows s (Sql.orderKeys (statement.order.getD "")) (positions.map fun i => rows.getD i [])
  let columns := match statement.selection with
    | .all => s.columnNames
    | .columns names => names
  pure (.found columns ((limited statement.limit sorted).map fun row =>
    project (.text "") s.columnNames row columns))

end Relational.Execution
