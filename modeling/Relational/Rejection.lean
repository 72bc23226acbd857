import Relational.Refusal

/-!
# Rejections

Why a table does not take a row or a change: a rule of a column, of the table, or between tables is broken, or
what the change names is not there.
-/

namespace Relational

/-- The kinds of rules that a change can break. -/
inductive RejectionKind where
  | notNull
  | typeMismatch
  | length
  | precision
  | scale
  | check
  | primaryKey
  | unique
  | foreignKey
  | columnCount
  | columnNotFound
  | tableNotFound
  | tableExists
  | rowOutOfBounds
  | index
  deriving Repr, DecidableEq

/-- The name of a kind. -/
def RejectionKind.name : RejectionKind → String
  | .notNull => "NOT_NULL"
  | .typeMismatch => "TYPE_MISMATCH"
  | .length => "LENGTH"
  | .precision => "PRECISION"
  | .scale => "SCALE"
  | .check => "CHECK"
  | .primaryKey => "PRIMARY_KEY"
  | .unique => "UNIQUE"
  | .foreignKey => "FOREIGN_KEY"
  | .columnCount => "COLUMN_COUNT"
  | .columnNotFound => "COLUMN_NOT_FOUND"
  | .tableNotFound => "TABLE_NOT_FOUND"
  | .tableExists => "TABLE_EXISTS"
  | .rowOutOfBounds => "ROW_OUT_OF_BOUNDS"
  | .index => "INDEX"

/-- Why a change is rejected. -/
inductive Rejection where
  /-- NULL in the primary key, in a column if one is named. -/
  | keyCellNull (column : Option String)
  /-- NULL in a column that does not take it. -/
  | cellNull (column : Option String)
  | cellType (text typeName : String)
  | cellLength (limit : Int)
  | cellPrecision (digits : Nat) (limit : Int)
  | cellScale (digits : Nat) (limit : Int)
  /-- A condition is false, or refused for a cause. -/
  | check (condition : String) (cause : Option Refusal)
  | inColumn (column : String) (rejection : Rejection)
  | rowWidth (expected given : Nat)
  | noTable (name : String)
  | tableExists (name : String)
  | tableReferenced (table child : String)
  | noRow
  | noColumn (column table : String)
  | indexExists (index table : String)
  | indexDuplicate (index : String) (key : List String)
  /-- The key of another row, of the primary key if `primary`. -/
  | keyTaken (primary : Bool) (columns : List String)
  | noParentTable (table : String)
  | noParentColumns (reference : String)
  | noParentRow (key : List String) (reference : String)
  | rowReferenced (child : String)
  deriving Repr, DecidableEq

namespace Rejection

/-- The kind of rule that is broken. -/
def kind : Rejection → RejectionKind
  | .keyCellNull _ => .primaryKey
  | .cellNull _ => .notNull
  | .cellType _ _ => .typeMismatch
  | .cellLength _ => .length
  | .cellPrecision _ _ => .precision
  | .cellScale _ _ => .scale
  | .check _ _ => .check
  | .inColumn _ rejection => rejection.kind
  | .rowWidth _ _ => .columnCount
  | .noTable _ => .tableNotFound
  | .tableExists _ => .tableExists
  | .tableReferenced _ _ => .foreignKey
  | .noRow => .rowOutOfBounds
  | .noColumn _ _ => .columnNotFound
  | .indexExists _ _ => .index
  | .indexDuplicate _ _ => .unique
  | .keyTaken primary _ => if primary then .primaryKey else .unique
  | .noParentTable _ => .foreignKey
  | .noParentColumns _ => .foreignKey
  | .noParentRow _ _ => .foreignKey
  | .rowReferenced _ => .foreignKey

/-- Texts with a comma between them. -/
def listed (texts : List String) : String :=
  ", ".intercalate texts

/-- A rejection in words. -/
def message : Rejection → String
  | .keyCellNull none => "PRIMARY KEY cannot be NULL or empty"
  | .keyCellNull (some column) => "PRIMARY KEY column '" ++ column ++ "' cannot be NULL"
  | .cellNull none => "Column cannot be NULL"
  | .cellNull (some column) => "Column '" ++ column ++ "' does not accept NULL values"
  | .cellType text typeName => "Invalid value '" ++ text ++ "' for type " ++ typeName
  | .cellLength limit => "Value exceeds maximum length of " ++ Decimal.intText limit
  | .cellPrecision digits limit =>
    "Decimal precision exceeded: " ++ Decimal.natText digits ++ " digits (max " ++ Decimal.intText limit ++ ")"
  | .cellScale digits limit =>
    "Decimal scale exceeded: " ++ Decimal.natText digits ++ " digits (max " ++ Decimal.intText limit ++ ")"
  | .check condition none => "CHECK constraint failed: " ++ condition
  | .check condition (some cause) => "CHECK constraint failed: " ++ condition ++ " (" ++ cause.message ++ ")"
  | .inColumn column rejection => "Column '" ++ column ++ "': " ++ rejection.message
  | .rowWidth expected given =>
    "Column count mismatch: expected " ++ Decimal.natText expected ++ ", got " ++ Decimal.natText given
  | .noTable name => "Table '" ++ name ++ "' not found"
  | .tableExists name => "Table '" ++ name ++ "' already exists"
  | .tableReferenced table child => "Cannot drop table '" ++ table ++ "': referenced by table '" ++ child ++ "'"
  | .noRow => "Row ID out of bounds"
  | .noColumn column table => "Column '" ++ column ++ "' does not exist in table '" ++ table ++ "'"
  | .indexExists index table => "Index '" ++ index ++ "' already exists on table '" ++ table ++ "'"
  | .indexDuplicate index key =>
    "Cannot create unique index '" ++ index ++ "': duplicate value (" ++ listed key ++ ")"
  | .keyTaken primary columns =>
    (if primary then "PRIMARY KEY" else "UNIQUE") ++ " constraint violation on column(s): " ++ listed columns
  | .noParentTable table => "Referenced table '" ++ table ++ "' does not exist"
  | .noParentColumns reference => "Referenced column(s) " ++ reference ++ " do not exist"
  | .noParentRow key reference =>
    "FOREIGN KEY constraint violation: value (" ++ listed key ++ ") not found in " ++ reference
  | .rowReferenced child => "FOREIGN KEY constraint violation: row referenced by table '" ++ child ++ "'"

end Rejection

end Relational
