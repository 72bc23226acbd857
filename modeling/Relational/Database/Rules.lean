import Relational.Database

/-!
# Rules between rows

The rules that a row is held to beside those of its own table definition: keys differ from row to row, every
reference has a referenced row, and no referenced row goes away. A key with a NULL in it is exempt.
-/

namespace Relational.Database

open Text

/-- The rules of uniqueness of a table; the first component tells the primary key. -/
def keyRules (s : Schema) : List (Bool × List String) :=
  (if s.primaryKey.isEmpty then [] else [(true, s.primaryKey)]) ++ s.uniqueKeys.map fun (_, columns) => (false, columns)

/-- Every row passes a check. -/
def checkAll {α : Type} (check : α → Except Failure Unit) : List α → Except Failure Unit
  | [] => .ok ()
  | a :: as => do
    check a
    checkAll check as

/-- Checks that are all made: a fault in any of them comes before a rejection by an earlier one. -/
def checkTogether (checks : List (Except Failure Unit)) : Except Failure Unit := do
  checkAll (fun check =>
    match check with
    | .error (.rejection _) => .ok ()
    | other => other) checks
  checkAll id checks

/-- No row but `except` has the key of `row`. -/
def checkKey (t : Table) (row : List String) (except : Option Nat) (rule : Bool × List String) :
    Except Failure Unit := do
  let key := t.schema.cells rule.2 row
  if Index.hasNull key then pure ()
  else
    let found ← t.findRows rule.2 key
    if found.all fun i => some i == except then pure () else reject (.keyTaken rule.1 rule.2)

/-- No row but `except` has a key of `row`. -/
def checkKeys (t : Table) (row : List String) (except : Option Nat) : Except Failure Unit :=
  checkAll (checkKey t row except) (keyRules t.schema)

/-- The row that a reference of `row` names is there. -/
def checkReference (db : Database) (s : Schema) (row : List String) (fk : ForeignKey) : Except Failure Unit :=
  match db.table? fk.refTable with
  | none => reject (.noParentTable fk.refTable)
  | some parent => do
    let key := s.cells fk.columns row
    if Index.hasNull key then pure ()
    else if !fk.refColumns.all parent.schema.hasColumn then reject (.noParentColumns fk.reference)
    else if (← parent.findRows fk.refColumns key).isEmpty then reject (.noParentRow key fk.reference)
    else pure ()

/-- The rows that the references of `row` name are there. -/
def checkReferences (db : Database) (s : Schema) (row : List String) : Except Failure Unit :=
  checkAll (fun entry => checkReference db s row entry.2) s.foreignKeys

/-- No row of `child` refers by `fk` to the row at `position` of the table under `key`. Given a new row in its
place, only a reference to cells that change counts. -/
def checkNotReferencedBy (key : String) (s : Schema) (row : List Cell) (position : Nat)
    (newRow : Option (List String)) (childKey : String) (child : Table) (fk : ForeignKey) :
    Except Failure Unit := do
  if keyOf fk.refTable != key || !fk.refColumns.all s.hasColumn then pure ()
  else
    let cells ← Cell.keyTexts (s.cells fk.refColumns row)
    if Index.hasNull cells || (newRow.map (s.cells fk.refColumns)) == some cells then pure ()
    else
      let found ← child.findRows fk.columns cells
      let others := if childKey == key then found.filter (· != position) else found
      if others.isEmpty then pure () else reject (.rowReferenced child.schema.name)

/-- No row of any table refers to the row at `position` of the table under `key`. -/
def checkNotReferenced (db : Database) (key : String) (s : Schema) (row : List Cell) (position : Nat)
    (newRow : Option (List String)) : Except Failure Unit :=
  checkAll (fun (childKey, child) =>
    checkAll (fun entry => checkNotReferencedBy key s row position newRow childKey child entry.2)
      child.schema.foreignKeys) db.tables

end Relational.Database
