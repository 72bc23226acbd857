import Relational.Proofs.DeclaredRules
import Relational.Proofs.Evaluation.Faults

/-!
# Validation that meets a fault

A row is accepted, or rejected for the first rule that it breaks. A condition that cannot be evaluated rejects the row
as well if something in it is refused, but a fault in it goes through to whoever asked for the row to be checked. So it
is found out here where validation meets a fault: at the first condition that does, if all checks before pass.
-/

namespace Relational

open Text

/-! ## Steps for all items of a list -/

section AfterAll

variable {α : Type} {P Q : α → Prop} {as : List α}

end AfterAll

/-! ## Steps that refuse nothing -/

namespace Column

variable {column : Column} {now : Timestamp} {context : List (String × Value)} {cell : String}

/-- Validating a text meets a fault: it fits, and the condition of the column meets one. -/
def MeetsFault (column : Column) (now : Timestamp) (context : List (String × Value)) (cell : String) : Prop :=
  isNullText cell = false ∧ column.Fits cell ∧ ∃ text c, column.check = some text ∧
    Condition.compile text = .ok c ∧ c.MeetsFault (column.scope now context cell)

end Column

/-! ## Rows -/

namespace Schema

variable {s : Schema} {now : Timestamp} {row : List String}

end Schema

/-! ## Rows that are put in -/

namespace Database

namespace Tank

/-- The moment at which the steps below are made. -/
def moment : Timestamp :=
  ⟨⟨2024, 2, 29⟩, ⟨12, 34, 56⟩⟩

/-- How full a tank is. -/
def levelColumn : Column :=
  { name := "level", type := .double, check := some "level < volume" }

/-- How much a tank holds. -/
def volumeColumn : Column :=
  { name := "volume", type := .bigint }

/-- A table of tanks. -/
def schema : Schema :=
  { name := "tank"
    description := ""
    isTemp := false
    columns := [levelColumn, volumeColumn]
    primaryKey := []
    uniques := []
    foreignKeys := []
    checks := []
    indexes := []
    rowCount := 0
    createdAt := moment
    modifiedAt := moment
    written := [] }

/-- The table without tanks. -/
def table : Table :=
  ⟨schema, some schema.noContent⟩

/-- A database without tanks. -/
def database : Database :=
  ((empty none).addTable moment schema).2

theorem found : database.table? "tank" = some table := by
  decide +kernel

end Tank

end Database

end Relational
