import Mathlib.Data.List.Sort
import Relational.Proofs.AffectedRows
import Relational.Proofs.Database.Alike

/-!
# Statements and the choice of indexes

A query, an update or a deletion looks for its rows in every row of the table, or in those that an index offers. Where
the condition has a truth value in all the rows that are looked at, the outcome does not depend on the indexes. It does
where the condition cannot be evaluated in a row: the statement fails if the row is looked at, and may succeed if an
index passes over it.
-/

namespace Relational

open Database (Step storedTable)

namespace Plan

variable {db db' : Database} {now : Timestamp} {t t' : Table} {name : String} {c : Condition}

variable {clause : Option String}

end Plan

namespace Execution

variable {db db' : Database} {now : Timestamp} {t t' : Table} {name : String} {clause : Option String}

section FindingRows

variable {α : Type} {first : Schema → Except Failure Unit}
  {rest : Schema → List (List Cell) × List Nat → Except Failure α}

end FindingRows

/-- What a query shows of the rows that were found. -/
def shown (statement : Sql.Select) (s : Schema) (found : List (List Cell) × List Nat) : Except Failure Result := do
  let sorted ← sortRows s (Sql.orderKeys (statement.order.getD "")) (found.2.map fun i => found.1.getD i [])
  let columns := match statement.selection with
    | .all => s.columnNames
    | .columns names => names
  pure (.found columns ((limited statement.limit sorted).map fun row =>
    project (.text "") s.columnNames row columns))

variable {attempts : List (Database → Except Failure Step)}

end Execution

/-! ## Whether a statement fails -/

namespace Session

open Execution

variable {session session' : Session} {now : Timestamp} {statement : Sql.Statement} {name : String}
  {clause : Option String}

namespace Label

end Label

end Session

end Relational
