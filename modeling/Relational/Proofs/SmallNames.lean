import Relational.Proofs.Evaluation.SmallNames
import Relational.Proofs.Sql.RecasedParser
import Relational.Execution.Query

/-!
# Statements with names in small letters

Tables and columns are found in any case, so each part of a statement on rows does the same with its names in small
letters: it finds the same table, the same rows through the same index, works out the same texts, sorts in the same way
and shows the same cells. What is refused by its name is refused by another name then.
-/

namespace Relational

open Text

/-! ## Tables and columns -/

theorem Database.table?_toLower (db : Database) (name : String) : db.table? name.toLower = db.table? name := by
  rw [table?, table?, keyOf, keyOf, lower_toLower]

namespace Schema

variable (s : Schema) (name : String)

theorem position?_toLower : s.position? name.toLower = s.position? name := by
  simp only [position?, sameName_toLower]

theorem column?_toLower : s.column? name.toLower = s.column? name := by
  simp only [column?, sameName_toLower]

theorem hasColumn_toLower : s.hasColumn name.toLower = s.hasColumn name := by
  rw [hasColumn, hasColumn, column?_toLower]

/-- The first column that is not there. -/
theorem find?_missing_toLower (names : List String) :
    ((names.map String.toLower).find? fun name => !s.hasColumn name) =
      (names.find? fun name => !s.hasColumn name).map String.toLower := by
  rw [List.find?_map]
  simp only [Function.comp_def, hasColumn_toLower]

end Schema

/-! ## Rows of a condition -/

namespace Plan

variable {db : Database} {now : Timestamp} {s : Schema} {rows : List (List Cell)}

theorem equality?_small (c : Condition) :
    equality? c.small = (equality? c).map fun (name, value) => (name.toLower, value) := by
  cases c with
  | compare op left right => cases op <;> cases left <;> cases right <;> rfl
  | _ => rfl

theorem lookup?_toLower (name : String) (value : Literal) :
    lookup? db s name.toLower value = lookup? db s name value := by
  rw [lookup?, lookup?, s.column?_toLower]

/-- The same index answers the condition. -/
theorem opportunity?_small (c : Condition) : opportunity? db s c.small = opportunity? db s c := by
  have hequality : ∀ c : Condition, ((equality? c.small).bind fun (name, value) => lookup? db s name value) =
      (equality? c).bind fun (name, value) => lookup? db s name value := by
    intro c
    rw [equality?_small, Option.bind_map]
    simp only [Function.comp_def, lookup?_toLower]
  induction c with
  | logic op left right ihl ihr =>
    cases op with
    | and => rw [Condition.small, opportunity?, opportunity?, ihl, ihr]
    | or => rfl
  | _ => exact hequality _

theorem candidates_small (count : Nat) (c : Condition) : candidates db s count c.small = candidates db s count c := by
  rw [candidates, candidates, opportunity?_small]

theorem selectsRow_small (c : Condition) (i : Nat) :
    SameResult (selectsRow now s rows c.small i) (selectsRow now s rows c i) := by
  apply (SameResult.refl _).bind
  intro texts
  exact (c.evaluate_small (Scope.caseless_ofValues _ _)).bind fun _ => .refl _

theorem select_same {test test' : Nat → Except Failure Bool} (h : ∀ i, SameResult (test i) (test' i)) (is : List Nat) :
    SameResult (select test is) (select test' is) := by
  induction is with
  | nil => exact .refl _
  | cons i is ih => exact (h i).bind fun passes => ih.bind fun rest => .refl _

theorem matching_small (c? : Option Condition) :
    SameResult (matching db now s rows (c?.map Condition.small)) (matching db now s rows c?) := by
  cases c? with
  | none => exact .refl _
  | some c =>
    rw [Option.map_some, matching, matching, candidates_small]
    exact select_same (selectsRow_small c) _

end Plan

namespace Execution

variable {db : Database} {now : Timestamp} {s : Schema} {scope : Scope}

theorem tableNamed_toLower (name : String) : SameResult (tableNamed db name.toLower) (tableNamed db name) := by
  rw [tableNamed, tableNamed, db.table?_toLower]
  cases db.table? name with
  | some t => exact .refl _
  | none => exact .failed _ _

/-! ## Texts for columns -/

theorem expressionText_small (hscope : scope.Caseless) (column : Column) (e : Expr) :
    SameResult (expressionText scope column e.small) (expressionText scope column e) := by
  cases e with
  | literal value => exact .refl _
  | column table name => exact ((Expr.column table name).evaluate_small hscope).bind fun _ => .refl _
  | call function args => exact ((Expr.call function args).evaluate_small hscope).bind fun _ => .refl _
  | binary op left right => exact ((Expr.binary op left right).evaluate_small hscope).bind fun _ => .refl _

theorem fillCells_small (hscope : scope.Caseless) (cells : List (String × Expr)) (row : List String) :
    SameResult (fillCells s scope (cells.map Sql.smallAssignment) row) (fillCells s scope cells row) := by
  induction cells generalizing row with
  | nil => exact .refl _
  | cons cell cells ih =>
    obtain ⟨name, e⟩ := cell
    show SameResult (fillCells s scope ((name.toLower, e.small) :: cells.map Sql.smallAssignment) row) _
    rw [fillCells, fillCells, s.position?_toLower, s.column?_toLower]
    split
    · exact (expressionText_small hscope _ e).bind fun text => ih _
    · exact .failed _ _

theorem newRow_small (names : List String) (values : List Expr) :
    SameResult (newRow db now s (names.map String.toLower) (values.map Expr.small)) (newRow db now s names values) := by
  rw [newRow, newRow, List.length_map, List.length_map]
  split
  · exact .failed _ _
  · rw [List.zip_map]
    exact (fillCells_small (Scope.caseless_ofValues _ _) _ _).bind fun row => .refl _

/-! ## Sorted rows and the cells that are shown -/

theorem sortByKey_small (rows : List (List Cell)) (key : Sql.OrderKey) :
    SameResult (sortByKey s rows key.small) (sortByKey s rows key) := by
  rw [sortByKey, sortByKey, Sql.OrderKey.small, s.position?_toLower, s.column?_toLower]
  split
  · exact .refl _
  · exact .failed _ _

theorem sortRows_small (keys : List Sql.OrderKey) (rows : List (List Cell)) :
    SameResult (sortRows s (keys.map Sql.OrderKey.small) rows) (sortRows s keys rows) := by
  rw [sortRows, sortRows, ← List.map_reverse, List.foldlM_map]
  generalize keys.reverse = keys
  induction keys generalizing rows with
  | nil => exact .refl _
  | cons key keys ih => exact (sortByKey_small rows key).bind fun sorted => ih sorted

theorem project_map_toLower {α : Type} (missing : α) (names : List String) (row : List α) (requested : List String) :
    project missing names row (requested.map String.toLower) = project missing names row requested := by
  simp only [project, List.map_map, Function.comp_def, lower_toLower]

end Execution

end Relational
