import Relational.Condition
import Relational.Database
import Relational.Evaluation

/-!
# Finding the rows of a condition

A condition that asks for equality of a column with a literal, alone or joined by AND, is answered through an
index on the column; the rows found that way are held against the whole condition. Any other condition is held
against every row.
-/

namespace Relational.Plan

/-- A column and a literal on the two sides of an equality. -/
def equality? : Condition → Option (String × Literal)
  | .compare .eq (.column _ name) (.literal value) => some (name, value)
  | .compare .eq (.literal value) (.column _ name) => some (name, value)
  | _ => none

/-- A literal is written like the texts of the type: a text between quotes for a string type, and nothing else
for the others. -/
def suits (type : DataType) : Literal → Bool
  | .string _ => type.isString
  | _ => !type.isString

/-- The index for an equality, and the stored form of its literal. Real numbers are not looked up, for equal
ones may be stored in different forms. -/
def lookup? (db : Database) (s : Schema) (name : String) (value : Literal) : Option (Index × String) := do
  let text ← value.text?
  let column ← s.column? name
  if column.type.isFloating || column.type.isDecimal || !suits column.type value then none
  else
    let index ← db.indexOn? s.name [column.name]
    let key ← (encode column.type column.choices text).toOption
    pure (index, key)

/-- The first equality under AND that an index answers. -/
def opportunity? (db : Database) (s : Schema) : Condition → Option (Index × String)
  | .logic .and left right => (opportunity? db s left).or (opportunity? db s right)
  | c => (equality? c).bind fun (name, value) => lookup? db s name value

/-- The positions of the rows that come into question. -/
def candidates (db : Database) (s : Schema) (count : Nat) (c : Condition) : List Nat :=
  match opportunity? db s c with
  | some (index, key) => ((index.search [key]).mergeSort (· ≤ ·)).filter (· < count)
  | none => List.range count

/-- The positions that pass a test. -/
def select (test : Nat → Except Failure Bool) : List Nat → Except Failure (List Nat)
  | [] => .ok []
  | i :: is => do
    let passes ← test i
    let rest ← select test is
    pure (if passes then i :: rest else rest)

/-- The condition selects the row at a position. -/
def selectsRow (now : Timestamp) (s : Schema) (rows : List (List Cell)) (c : Condition) (i : Nat) :
    Except Failure Bool := do
  c.selects (s.rowScope now (← Cell.texts (rows.getD i [])))

/-- The positions of the rows that a condition selects, in order; all of them without a condition. -/
def matching (db : Database) (now : Timestamp) (s : Schema) (rows : List (List Cell)) (c? : Option Condition) :
    Except Failure (List Nat) :=
  match c? with
  | none => .ok (List.range rows.length)
  | some c => select (selectsRow now s rows c) (candidates db s rows.length c)

end Relational.Plan
