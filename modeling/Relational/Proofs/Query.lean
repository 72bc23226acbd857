import Relational.Proofs.Delete
import Relational.Proofs.Sorting
import Relational.Proofs.Sorting.Mapped
import Relational.Proofs.Sql.Order
import Relational.Proofs.Value.Order

/-!
# The order of the rows of a query

The rows that WHERE selects are sorted by the keys of ORDER BY one after the other, the last key first. Each sorting
keeps the order of rows that are equal in its key. So in the end the first key in which two rows differ decides which of
them precedes the other, and if there is none, the order of the table does.
-/

namespace Relational

namespace Execution

variable {s : Schema} {rows : List (List String)} {key : Sql.OrderKey} {keys : List Sql.OrderKey} {column : Column}
  {i j : Nat}

/-! ## Which row precedes another -/

/-- Where the value of a row in the column of a key stands among the values of the column. -/
def keyPlace (s : Schema) (key : Sql.OrderKey) (row : List String) : List Int :=
  match s.position? key.column, s.column? key.column with
  | some i, some column => (Value.ofText column.type (row.getD i "")).place
  | _, _ => []

/-- By a key, a row comes before another. -/
def KeyBefore (s : Schema) (key : Sql.OrderKey) (row other : List String) : Prop :=
  if key.descending then keyPlace s key other < keyPlace s key row else keyPlace s key row < keyPlace s key other

/-- Of the rows at two positions the first is to precede the second: by the first key in which they differ, or as they
stand in the table. -/
def Precedes (s : Schema) (rows : List (List String)) : List Sql.OrderKey → Nat → Nat → Prop
  | [], i, j => i < j
  | key :: keys, i, j => KeyBefore s key (rows.getD i []) (rows.getD j []) ∨
      keyPlace s key (rows.getD i []) = keyPlace s key (rows.getD j []) ∧ Precedes s rows keys i j

theorem KeyBefore.asymm {row other : List String} (h : KeyBefore s key row other) : ¬ KeyBefore s key other row := by
  unfold KeyBefore at h ⊢
  split at h
  · rename_i hfalls
    rw [if_pos hfalls]
    exact lt_asymm h
  · rename_i hrises
    rw [if_neg hrises]
    exact lt_asymm h

theorem KeyBefore.ne {row other : List String} (h : KeyBefore s key row other) :
    keyPlace s key row ≠ keyPlace s key other := by
  unfold KeyBefore at h
  split at h
  · exact (ne_of_lt h).symm
  · exact ne_of_lt h

theorem keyBefore_trichotomy (s : Schema) (key : Sql.OrderKey) (row other : List String) :
    KeyBefore s key row other ∨ keyPlace s key row = keyPlace s key other ∨ KeyBefore s key other row := by
  unfold KeyBefore
  split
  · exact (lt_trichotomy (keyPlace s key other) (keyPlace s key row)).imp_right (·.imp_left Eq.symm)
  · exact lt_trichotomy _ _

/-- A row precedes those that do not come before it by the first key, if it precedes them by the others. -/
theorem Precedes.cons (h : KeyBefore s key (rows.getD i []) (rows.getD j []) ∨
    ¬ KeyBefore s key (rows.getD j []) (rows.getD i []) ∧ Precedes s rows keys i j) :
    Precedes s rows (key :: keys) i j := by
  rcases h with hbefore | ⟨hnot, hrest⟩
  · exact .inl hbefore
  · rcases keyBefore_trichotomy s key (rows.getD i []) (rows.getD j []) with hbefore | hsame | hafter
    · exact .inl hbefore
    · exact .inr ⟨hsame, hrest⟩
    · exact absurd hafter hnot

theorem Precedes.asymm (h : Precedes s rows keys i j) : ¬ Precedes s rows keys j i := by
  induction keys with
  | nil => exact Nat.lt_asymm h
  | cons key keys ih =>
    rcases h with hkey | ⟨hsame, hrest⟩
    · rintro (hkey' | ⟨hsame, -⟩)
      · exact hkey.asymm hkey'
      · exact hkey.ne hsame.symm
    · rintro (hkey | ⟨-, hrest'⟩)
      · exact hkey.ne hsame.symm
      · exact ih hrest hrest'

/-- The columns that a query shows. -/
def shownColumns (s : Schema) : Sql.Selection → List String
  | .all => s.columnNames
  | .columns names => names

end Execution

namespace Session

open Execution

namespace Label

/-- The definition of the table with three labels. -/
def stored : Schema :=
  (Database.storedTable Database.Label.schema [["7", "x"], ["8", "y"], ["9", "x"]] Database.Label.moment).schema

end Label

end Session

end Relational
