import Relational.Cell

/-!
# Results

What the user is told about a statement: whether it succeeded, how many rows it changed or found, and for a
query the rows. A statement that stops half way has failed and still tells how many rows it changed.
-/

namespace Relational

/-- The result of a statement. Only a query fills `columns` and `rows`. -/
structure Result where
  success : Bool
  affectedRows : Int
  columns : List String
  rows : List (List Cell)
  errorMessage : String
  message : String
  deriving Repr, DecidableEq

namespace Result

/-- The statement succeeded and says so in words. -/
def done (message : String) : Result :=
  ⟨true, 0, [], [], "", message⟩

/-- The statement changed a number of rows. -/
def changed (count : Nat) : Result :=
  ⟨true, count, [], [], "", ""⟩

/-- The query found rows. -/
def found (columns : List String) (rows : List (List Cell)) : Result :=
  ⟨true, rows.length, columns, rows, "", ""⟩

/-- The statement failed after it had changed a number of rows. -/
def stopped (count : Nat) (errorMessage : String) : Result :=
  ⟨false, count, [], [], errorMessage, ""⟩

/-- The statement failed. -/
def failed (errorMessage : String) : Result :=
  stopped 0 errorMessage

end Result

end Relational
