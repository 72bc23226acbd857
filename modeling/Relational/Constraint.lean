import Relational.Condition.Parser
import Relational.Evaluation
import Relational.Json.Decode
import Relational.Text.Quoted

/-!
# Constraints

The rules a table can declare. Those that look at one value are checked here: the primary key and NOT NULL refuse
NULL, and a CHECK refuses a row for which its condition is false. UNIQUE and FOREIGN KEY need other rows and are
checked by the database. The actions of a foreign key are kept and never carried out.
-/

namespace Relational

open Text

/-- What a foreign key asks for when a referenced row goes away or changes. -/
inductive CascadeAction where
  | restrict
  | noAction
  | setNull
  | setDefault
  | cascade
  deriving Repr, DecidableEq, Inhabited

namespace CascadeAction

/-- Every action. -/
def all : List CascadeAction :=
  [.restrict, .noAction, .setNull, .setDefault, .cascade]

/-- An action in words. -/
def name : CascadeAction → String
  | .restrict => "RESTRICT"
  | .noAction => "NO ACTION"
  | .setNull => "SET NULL"
  | .setDefault => "SET DEFAULT"
  | .cascade => "CASCADE"

/-- The action that a text names, in any case and with any blanks between its words. -/
def read (text : String) : Except Failure CascadeAction :=
  let wanted := " ".intercalate (words (upper text))
  match all.find? fun action => action.name == wanted with
  | some action => .ok action
  | none => fail (.value (.action wanted))

end CascadeAction

/-- A reference from columns of one table to columns of another, or of the same. -/
structure ForeignKey where
  columns : List String
  refTable : String
  refColumns : List String
  onDelete : CascadeAction
  onUpdate : CascadeAction
  deriving Repr, DecidableEq

namespace ForeignKey

/-- The referenced columns, as `table.column` or `table(a, b)`. -/
def reference (fk : ForeignKey) : String :=
  match fk.refColumns with
  | [column] => fk.refTable ++ "." ++ column
  | columns => fk.refTable ++ "(" ++ Rejection.listed columns ++ ")"

/-- The foreign key as a document. -/
def toJson (fk : ForeignKey) : Json :=
  .object [("columns", .ofTexts fk.columns), ("refTable", .text fk.refTable),
    ("refColumn", .text (fk.refColumns.headD "")), ("refColumns", .ofTexts fk.refColumns),
    ("onDelete", .text fk.onDelete.name), ("onUpdate", .text fk.onUpdate.name)]

/-- The referenced columns of a document: a list that is not empty, else a single column. -/
def refColumnsOf (document : Json) : Except Failure (List String) := do
  match ← document.fieldOr "refColumns" Json.names [] with
  | [] => do pure [← (← document.require "refColumn").asText]
  | columns => pure columns

/-- Reads a foreign key. Columns that are not named are those of the other side. -/
def ofJson (document : Json) : Except Failure ForeignKey := do
  let refColumns ← refColumnsOf document
  let columns ← document.fieldOr "columns" Json.names refColumns
  let refTable ← (← document.require "refTable").asText
  let onDelete ← CascadeAction.read (← document.fieldOr "onDelete" Json.asText "RESTRICT")
  let onUpdate ← CascadeAction.read (← document.fieldOr "onUpdate" Json.asText "RESTRICT")
  pure ⟨columns, refTable, refColumns, onDelete, onUpdate⟩

end ForeignKey

/-- Rejects the values for which a condition is false. A condition that cannot be read or evaluated rejects
them with the cause; one that is unknown does not. -/
def checkCondition (text : String) (scope : Scope) : Except Failure Unit :=
  let truth := do (← Condition.compile text).evaluate scope
  match truth with
  | .ok (some false) => reject (.check text none)
  | .ok _ => .ok ()
  | .error (.refusal cause) => reject (.check text (some cause))
  | .error failure => .error failure

/-- A constraint with its name. -/
inductive Constraint where
  | primaryKey (name : String) (columns : List String)
  | unique (name : String) (columns : List String)
  | notNull (name : String) (columns : List String)
  | foreignKey (name : String) (fk : ForeignKey)
  | check (name : String) (condition : String) (columns : List String)
  deriving Repr, DecidableEq

namespace Constraint

/-- The name of a constraint. -/
def name : Constraint → String
  | .primaryKey name _ => name
  | .unique name _ => name
  | .notNull name _ => name
  | .foreignKey name _ => name
  | .check name _ _ => name

/-- The columns that a constraint covers. -/
def columns : Constraint → List String
  | .primaryKey _ columns => columns
  | .unique _ columns => columns
  | .notNull _ columns => columns
  | .foreignKey _ fk => fk.columns
  | .check _ _ columns => columns

/-- The kind of a constraint in the words of the query language. -/
def kindName : Constraint → String
  | .primaryKey _ _ => "PRIMARY KEY"
  | .unique _ _ => "UNIQUE"
  | .notNull _ _ => "NOT NULL"
  | .foreignKey _ _ => "FOREIGN KEY"
  | .check _ _ _ => "CHECK"

/-- The kind of a constraint in short listings. -/
def label : Constraint → String
  | .primaryKey _ _ => "PrimaryKeyConstraint"
  | .unique _ _ => "UniqueConstraint"
  | .notNull _ _ => "NotNullConstraint"
  | .foreignKey _ _ => "ForeignKeyConstraint"
  | .check _ _ _ => "CheckConstraint"

/-- A constraint in the words of the query language. -/
def description : Constraint → String
  | .foreignKey _ fk =>
    "FOREIGN KEY (" ++ Rejection.listed fk.columns ++ ") REFERENCES " ++ fk.reference ++ " ON DELETE "
      ++ fk.onDelete.name ++ " ON UPDATE " ++ fk.onUpdate.name
  | .check _ condition _ => "CHECK (" ++ condition ++ ")"
  | c => c.kindName ++ " (" ++ Rejection.listed c.columns ++ ")"

/-- A constraint with its name, as listings of a table show it. -/
def describe (c : Constraint) : String :=
  c.name ++ ": " ++ c.description

/-- A constraint in short: kind, name and columns. -/
def summary (c : Constraint) : String :=
  c.label ++ "(" ++ c.name ++ ", " ++ displayList c.columns ++ ")"

/-- Checks one value. A CHECK sees it under the name of every column it covers and as `value`. -/
def validate (now : Timestamp) (c : Constraint) (text : String) : Except Failure Unit :=
  match c with
  | .primaryKey _ _ => if isNullText text then reject (.keyCellNull none) else .ok ()
  | .notNull _ _ => if isNullText text then reject (.cellNull none) else .ok ()
  | .check _ condition columns =>
    let bound := Value.ofText .varchar text
    checkCondition condition (.ofValues (("value", bound) :: columns.map fun c => (lower c, bound)) now)
  | _ => .ok ()

end Constraint

end Relational
