import Relational.Expr

/-!
# Statements

What a statement says. The conditions of WHERE and CHECK and the keys of ORDER BY are kept as text; they are read
when the statement runs.
-/

namespace Relational.Sql

/-- REFERENCES with the referenced columns and the actions on deletion and update. -/
structure Reference where
  name : Option String
  columns : List String
  refTable : String
  refColumns : List String
  onDelete : String
  onUpdate : String
  deriving Repr, DecidableEq, Inhabited

/-- UNIQUE over several columns. -/
structure UniqueClause where
  name : Option String
  columns : List String
  deriving Repr, DecidableEq, Inhabited

/-- CHECK of a table. -/
structure CheckClause where
  name : Option String
  condition : String
  deriving Repr, DecidableEq, Inhabited

/-- A column of a new table. -/
structure ColumnClause where
  name : String
  typeName : String
  typeParams : List String
  primaryKey : Bool
  unique : Bool
  notNull : Bool
  autoIncrement : Bool
  default : Option String
  check : Option String
  references : Option Reference
  deriving Repr, DecidableEq, Inhabited

/-- A new table. -/
structure CreateTable where
  table : String
  ifNotExists : Bool
  columns : List ColumnClause
  primaryKey : List String
  uniques : List UniqueClause
  foreignKeys : List Reference
  checks : List CheckClause
  deriving Repr, DecidableEq, Inhabited

/-- The columns that SELECT names; all of them for `*`. -/
inductive Selection where
  | all
  | columns (names : List String)
  deriving Repr, DecidableEq, Inhabited

/-- What ALTER TABLE does. -/
inductive Alteration where
  | add
  | drop
  | modify
  deriving Repr, DecidableEq, Inhabited

/-- An alteration in capitals. -/
def Alteration.name : Alteration → String
  | .add => "ADD"
  | .drop => "DROP"
  | .modify => "MODIFY"

/-- SELECT. -/
structure Select where
  selection : Selection
  table : String
  condition : Option String
  order : Option String
  limit : Option Nat
  join : Option String
  deriving Repr, DecidableEq, Inhabited

/-- INSERT. Without a list of columns the values are for all columns in order. -/
structure Insert where
  table : String
  columns : Option (List String)
  values : List (List Expr)
  deriving Repr, Inhabited

/-- UPDATE. -/
structure Update where
  table : String
  assignments : List (String × Expr)
  condition : Option String
  deriving Repr, Inhabited

/-- DELETE. -/
structure Delete where
  table : String
  condition : Option String
  deriving Repr, DecidableEq, Inhabited

/-- CREATE INDEX. -/
structure CreateIndex where
  index : String
  table : String
  columns : List String
  unique : Bool
  deriving Repr, DecidableEq, Inhabited

/-- A statement. -/
inductive Statement where
  | createTable (statement : CreateTable)
  | alterTable (table : String) (action : Alteration) (column definition : String)
  | dropTable (table : String) (ifExists : Bool)
  | createIndex (statement : CreateIndex)
  | insert (statement : Insert)
  | select (statement : Select)
  | update (statement : Update)
  | delete (statement : Delete)
  | begin
  | commit
  | rollback
  deriving Repr, Inhabited

/-- A key of ORDER BY. -/
structure OrderKey where
  column : String
  descending : Bool
  deriving Repr, DecidableEq, Inhabited

end Relational.Sql
