import Relational.Entries
import Relational.Failure
import Relational.NullText

/-!
# Indexes

An index maps keys, the texts of some columns of a row, to the positions of the rows that hold them. A key with
a NULL in it is not kept, so NULL never meets NULL.
-/

namespace Relational

/-- An index. Its entries are in the order in which the keys were first met. -/
structure Index where
  name : String
  columns : List String
  unique : Bool
  entries : List (List String × List Nat)
  deriving Repr, DecidableEq

namespace Index

/-- An index without entries. -/
def empty (name : String) (columns : List String) (unique : Bool) : Index :=
  ⟨name, columns, unique, []⟩

/-- A part of the key is NULL. -/
def hasNull (key : List String) : Bool :=
  key.any isNullText

/-- The positions of the rows with a key. -/
def search (index : Index) (key : List String) : List Nat :=
  if hasNull key then [] else (index.entries.lookup key).getD []

/-- Adds the position of a row. -/
def insert (index : Index) (key : List String) (row : Nat) : Index :=
  if hasNull key then index
  else { index with entries := setEntry key ((index.entries.lookup key).getD [] ++ [row]) index.entries }

/-- Removes the position of a row; a key without rows goes away. -/
def delete (index : Index) (key : List String) (row : Nat) : Index :=
  match index.entries.lookup key with
  | none => index
  | some rows =>
    match rows.erase row with
    | [] => if rows.isEmpty then index else { index with entries := removeEntry key index.entries }
    | rest => { index with entries := setEntry key rest index.entries }

/-- Every key. -/
def keys (index : Index) : List (List String) :=
  index.entries.map Prod.fst

/-- The index without its entries. -/
def clear (index : Index) : Index :=
  { index with entries := [] }

/-- What stands in a row at some positions. -/
def keyAt {α : Type} (positions : List Nat) (row : List α) : List α :=
  positions.filterMap fun p => row[p]?

/-- Adds the keys of rows that stand at `start` and after it. -/
def insertKeys (start : Nat) (index : Index) : List (List String) → Index
  | [] => index
  | key :: keys => insertKeys (start + 1) (index.insert key start) keys

/-- The index of all rows of a table, by their keys. -/
def ofKeys (index : Index) (keys : List (List String)) : Index :=
  insertKeys 0 index.clear keys

/-- A row has cells at all positions. -/
def reaches (positions : List Nat) (row : List String) : Bool :=
  positions.all (· < row.length)

/-- Indexes rows up to the first that is too short. -/
def rebuild (index : Index) (positions : List Nat) (rows : List (List String)) : Except Failure Unit × Index :=
  let wide := rows.takeWhile (reaches positions)
  (if wide.length < rows.length then fail .position else .ok (), index.ofKeys (wide.map (keyAt positions)))

/-- The index in short: name, columns and number of keys. -/
def summary (index : Index) : String :=
  "HashIndex(" ++ index.name ++ ", " ++ Text.displayList index.columns ++ ", "
    ++ Decimal.natText index.entries.length ++ " keys)"

end Index

end Relational
