import Relational.Proofs.Agreement
import Relational.Proofs.Text.Case
import Relational.Evaluation

/-!
# Names of columns in small letters

A name is looked up without regard to its case, so an expression and a condition have the same values with their names
in small letters. A column that is not there is refused by the name that was written, so a failure may have another
message.
-/

namespace Relational

open Text

mutual

/-- The expression with the names of its columns in small letters. -/
def Expr.small : Expr → Expr
  | .column table name => .column (table.map String.toLower) name.toLower
  | .literal value => .literal value
  | .call function args => .call function (allSmall args)
  | .binary op left right => .binary op left.small right.small

/-- The expressions with the names of their columns in small letters. -/
def allSmall : List Expr → List Expr
  | [] => []
  | e :: es => e.small :: allSmall es

end

theorem allSmall_eq_map (es : List Expr) : allSmall es = es.map Expr.small := by
  induction es with
  | nil => rfl
  | cons e es ih => rw [allSmall, ih, List.map_cons]

/-- The condition with the names of its columns in small letters. -/
def Condition.small : Condition → Condition
  | .compare op left right => .compare op left.small right.small
  | .logic op left right => .logic op left.small right.small
  | .not operand => .not operand.small
  | .isNull negated operand => .isNull negated operand.small
  | .inList negated operand items => .inList negated operand.small (items.map Expr.small)
  | .like negated operand pattern => .like negated operand.small pattern.small

/-! ## Scopes -/

/-- A scope that finds columns by their names in any case. -/
def Scope.Caseless (scope : Scope) : Prop :=
  ∀ table name, scope.column? (table.map String.toLower) name.toLower = scope.column? table name

theorem Scope.caseless_ofValues (values : List (String × Value)) (now : Timestamp) :
    (Scope.ofValues values now).Caseless := by
  intro table name
  show Scope.lookup values (table.map String.toLower) name.toLower = Scope.lookup values table name
  cases table with
  | none => simp only [Scope.lookup, Option.map_none, lower_toLower]
  | some table => simp only [Scope.lookup, Option.map_some, lower_toLower, isEmpty_toLower]

/-! ## Values -/

variable {scope : Scope}

theorem Scope.Caseless.column (hscope : scope.Caseless) (table : Option String) (name : String) :
    SameResult (scope.column (table.map String.toLower) name.toLower) (scope.column table name) := by
  unfold Scope.column
  rw [hscope]
  cases scope.column? table name with
  | some v => exact .refl _
  | none =>
    rw [upper_toLower]
    cases table with
    | some table => exact .failed _ _
    | none =>
      cases clockValue? scope.now (upper name) with
      | some v => exact .refl _
      | none => exact .failed _ _

mutual

/-- An expression has the same value with its names in small letters, or none with either. -/
theorem Expr.evaluate_small (hscope : scope.Caseless) :
    (e : Expr) → SameResult (e.small.evaluate scope) (e.evaluate scope)
  | .column table name => by
    simp only [Expr.small, Expr.evaluate]
    exact hscope.column table name
  | .literal value => .refl _
  | .call function args => by
    simp only [Expr.small, Expr.evaluate]
    exact (evaluateAll_small hscope args).bind fun values => .refl _
  | .binary op left right => by
    simp only [Expr.small, Expr.evaluate]
    exact (left.evaluate_small hscope).bind fun v => (right.evaluate_small hscope).bind fun w => .refl _

theorem evaluateAll_small (hscope : scope.Caseless) :
    (es : List Expr) → SameResult (evaluateAll scope (allSmall es)) (evaluateAll scope es)
  | [] => .refl _
  | e :: es => by
    simp only [allSmall, evaluateAll]
    exact (e.evaluate_small hscope).bind fun v => (evaluateAll_small hscope es).bind fun vs => .refl _

end

theorem memberOf_small (hscope : scope.Caseless) (v : Value) (sawNull : Bool) (es : List Expr) :
    SameResult (memberOf scope v sawNull (es.map Expr.small)) (memberOf scope v sawNull es) := by
  induction es generalizing sawNull with
  | nil => exact .refl _
  | cons e es ih =>
    rw [List.map_cons, memberOf, memberOf]
    apply (e.evaluate_small hscope).bind
    intro w
    split
    · exact ih true
    · apply (SameResult.refl _).bind
      intro order
      split
      · exact .refl _
      · exact ih sawNull

/-- A condition is as true with its names in small letters. -/
theorem Condition.evaluate_small (hscope : scope.Caseless) (c : Condition) :
    SameResult (c.small.evaluate scope) (c.evaluate scope) := by
  induction c with
  | compare op left right =>
    simp only [Condition.small, Condition.evaluate]
    exact (left.evaluate_small hscope).bind fun v => (right.evaluate_small hscope).bind fun w => .refl _
  | logic op left right ihl ihr =>
    cases op with
    | and =>
      simp only [Condition.small, Condition.evaluate]
      apply ihl.bind
      intro t
      split
      · exact .refl _
      · exact ihr.bind fun _ => .refl _
    | or =>
      simp only [Condition.small, Condition.evaluate]
      apply ihl.bind
      intro t
      split
      · exact .refl _
      · exact ihr.bind fun _ => .refl _
  | not operand ih =>
    simp only [Condition.small, Condition.evaluate]
    exact ih.bind fun _ => .refl _
  | isNull negated operand =>
    simp only [Condition.small, Condition.evaluate]
    exact (operand.evaluate_small hscope).bind fun _ => .refl _
  | inList negated operand items =>
    simp only [Condition.small, Condition.evaluate]
    apply (operand.evaluate_small hscope).bind
    intro v
    split
    · exact .refl _
    · exact (memberOf_small hscope v false items).bind fun _ => .refl _
  | like negated operand pattern =>
    simp only [Condition.small, Condition.evaluate]
    exact (operand.evaluate_small hscope).bind fun v => (pattern.evaluate_small hscope).bind fun w => .refl _

end Relational
