/-!
# Entries in order

Lists of keys with values, one value for each key, in the order in which the keys were first given.
-/

namespace Relational

variable {α β : Type} [BEq α]

/-- Gives `key` the value `value`. A key that is there keeps its place, a new one comes last. -/
def setEntry (key : α) (value : β) : List (α × β) → List (α × β)
  | [] => [(key, value)]
  | (k, v) :: entries => if k == key then (k, value) :: entries else (k, v) :: setEntry key value entries

/-- The entries without the first one for `key`. -/
def removeEntry (key : α) : List (α × β) → List (α × β)
  | [] => []
  | (k, v) :: entries => if k == key then entries else (k, v) :: removeEntry key entries

/-- The entries in order, a later one for the same key in the place of the earlier one. -/
def collectEntries (entries : List (α × β)) : List (α × β) :=
  entries.foldl (fun found entry => setEntry entry.1 entry.2 found) []

end Relational
