import Relational.Expr

/-!
# Conditions

Conditions select rows and check them. A predicate compares expressions; conditions are joined by AND, OR and
NOT.
-/

namespace Relational

/-- The comparison operators. -/
inductive Comparison where
  | eq
  | ne
  | lt
  | gt
  | le
  | ge
  deriving Repr, DecidableEq, Inhabited

/-- The sign of a comparison. -/
def Comparison.symbol : Comparison → String
  | .eq => "="
  | .ne => "!="
  | .lt => "<"
  | .gt => ">"
  | .le => "<="
  | .ge => ">="

/-- A comparison holds of an order between its sides. -/
def Comparison.holds (op : Comparison) (order : Ordering) : Bool :=
  match op with
  | .eq => order == .eq
  | .ne => order != .eq
  | .lt => order == .lt
  | .gt => order == .gt
  | .le => order != .gt
  | .ge => order != .lt

/-- The connectives. -/
inductive Connective where
  | and
  | or
  deriving Repr, DecidableEq, Inhabited

/-- The word for a connective. -/
def Connective.symbol : Connective → String
  | .and => "AND"
  | .or => "OR"

/-- A condition. A negated predicate is IS NOT NULL, NOT IN or NOT LIKE. -/
inductive Condition where
  | compare (op : Comparison) (left right : Expr)
  | logic (op : Connective) (left right : Condition)
  | not (operand : Condition)
  | isNull (negated : Bool) (operand : Expr)
  | inList (negated : Bool) (operand : Expr) (items : List Expr)
  | like (negated : Bool) (operand pattern : Expr)
  deriving Repr, Inhabited

end Relational
