import Relational.Constraint
import Relational.Proofs.Failure

/-!
# What evaluating fails with

An expression that has no value was refused, or met a fault. It is never rejected: only rules reject. So a condition of
a rule that cannot be evaluated breaks no rule but the one that it belongs to.
-/

namespace Relational

/-- A failure that is no rejection. -/
def Failure.Raised : Failure → Prop
  | .rejection _ => False
  | .refusal _ | .fault _ => True

section Raised

variable {α : Type}

theorem refuse_raised (cause : Refusal) : FailsOnly Failure.Raised (refuse cause : Except Failure α) :=
  .error trivial

theorem fail_raised (cause : Fault) : FailsOnly Failure.Raised (fail cause : Except Failure α) :=
  .error trivial

end Raised

/-! ## Values -/

namespace Value

theorem store_raised (type : DataType) (data : Option Payload) : FailsOnly Failure.Raised (store type data) := by
  unfold store
  repeat' split
  all_goals first | exact .ok _ | exact refuse_raised _ | exact fail_raised _

theorem realOfInteger_raised (n : Int) : FailsOnly Failure.Raised (realOfInteger n) := by
  unfold realOfInteger
  split
  · exact .ok _
  · exact fail_raised _

theorem toReal_raised (p : Number) : FailsOnly Failure.Raised p.toReal := by
  cases p with
  | integer n => exact realOfInteger_raised n
  | real x => exact .ok x

theorem numeric_raised (onIntegers : Int → Int → Int) (onReals : Float → Float → Float) (v w : Value) :
    FailsOnly Failure.Raised (numeric onIntegers onReals v w) := by
  unfold numeric
  dsimp only
  split
  · exact store_raised _ _
  · rename_i p q _ _ _
    exact (toReal_raised p).bind fun x _ => (toReal_raised q).bind fun y _ => store_raised _ _
  · exact .ok _

theorem div_raised (v w : Value) : FailsOnly Failure.Raised (div v w) := by
  unfold div
  dsimp only
  split
  · rename_i p q _ _
    refine (toReal_raised q).bind fun divisor _ => ?_
    split
    · exact .ok _
    · split
      · exact store_raised _ _
      · exact (toReal_raised p).bind fun dividend _ => store_raised _ _
  · exact .ok _

theorem mod_raised (v w : Value) : FailsOnly Failure.Raised (mod v w) := by
  unfold mod
  dsimp only
  split
  · split
    · exact .ok _
    · exact store_raised _ _
  · exact .ok _

theorem abs_raised (v : Value) : FailsOnly Failure.Raised v.abs := by
  unfold abs
  split
  · exact store_raised _ _
  · exact .ok _

theorem integerOfReal_raised (x : Float) : FailsOnly Failure.Raised (integerOfReal x) := by
  unfold integerOfReal
  split
  · exact .ok _
  · split <;> exact fail_raised _

theorem toInteger?_raised (v : Value) : FailsOnly Failure.Raised v.toInteger? := by
  unfold toInteger?
  split
  · exact .ok _
  · exact (integerOfReal_raised _).map _
  · exact .ok _
  · exact .ok _
  · exact .ok _

theorem order_raised (v w : Value) : FailsOnly Failure.Raised (v.order w) := by
  unfold order
  split
  · exact .ok _
  · exact .ok _
  · exact .ok _
  · unfold payloadOrder
    split
    case h_2 | h_3 => exact (realOfInteger_raised _).map _
    all_goals exact .ok _

end Value

theorem Arithmetic.apply_raised (op : Arithmetic) (v w : Value) : FailsOnly Failure.Raised (op.apply v w) := by
  cases op with
  | add | sub | mul => exact Value.numeric_raised _ _ _ _
  | div => exact Value.div_raised _ _
  | mod => exact Value.mod_raised _ _

/-! ## Expressions -/

theorem substring_raised (v start : Value) (length : Option Value) :
    FailsOnly Failure.Raised (substring v start length) := by
  unfold substring
  refine (Value.toInteger?_raised start).bind fun start _ => ?_
  cases length with
  | none => exact .ok _
  | some n => exact (Value.toInteger?_raised n).bind fun length _ => .ok _

theorem callFunction_raised (now : Timestamp) (function : String) (args : List Value) :
    FailsOnly Failure.Raised (callFunction now function args) := by
  unfold callFunction
  split
  · exact .ok _
  · split
    all_goals first | exact .ok _ | exact substring_raised _ _ _ | exact Value.abs_raised _ | exact refuse_raised _

theorem Literal.evaluate_raised (value : Literal) : FailsOnly Failure.Raised value.evaluate := by
  cases value with
  | number text =>
    rw [Literal.evaluate, numberValue]
    repeat' split
    all_goals first | exact .ok _ | exact fail_raised _
  | string | bool | null => exact .ok _

theorem Scope.column_raised (scope : Scope) (table : Option String) (name : String) :
    FailsOnly Failure.Raised (scope.column table name) := by
  unfold Scope.column
  repeat' split
  all_goals first | exact .ok _ | exact refuse_raised _

variable {scope : Scope}

mutual

theorem Expr.evaluate_raised : (e : Expr) → FailsOnly Failure.Raised (e.evaluate scope)
  | .column table name => by
    rw [Expr.evaluate]
    exact scope.column_raised table name
  | .literal value => by
    rw [Expr.evaluate]
    exact value.evaluate_raised
  | .call function args => by
    rw [Expr.evaluate]
    exact (evaluateAll_raised args).bind fun values _ => callFunction_raised _ _ _
  | .binary op left right => by
    rw [Expr.evaluate]
    exact left.evaluate_raised.bind fun v _ => right.evaluate_raised.bind fun w _ => op.apply_raised v w

theorem evaluateAll_raised : (es : List Expr) → FailsOnly Failure.Raised (evaluateAll scope es)
  | [] => by
    rw [evaluateAll]
    exact .ok []
  | e :: es => by
    rw [evaluateAll]
    exact e.evaluate_raised.bind fun v _ => (evaluateAll_raised es).bind fun vs _ => .ok (v :: vs)

end

/-! ## Conditions -/

theorem alignedOrder_raised (v w : Value) : FailsOnly Failure.Raised (alignedOrder v w) :=
  Value.order_raised _ _

theorem memberOf_raised (v : Value) (sawNull : Bool) (es : List Expr) :
    FailsOnly Failure.Raised (memberOf scope v sawNull es) := by
  induction es generalizing sawNull with
  | nil => exact .ok _
  | cons e es ih =>
    rw [memberOf]
    refine e.evaluate_raised.bind fun w _ => ?_
    split
    · exact ih true
    · refine (alignedOrder_raised v w).bind fun order _ => ?_
      split
      · exact .ok _
      · exact ih sawNull

/-- Evaluating a condition rejects nothing. -/
theorem Condition.evaluate_raised (c : Condition) : FailsOnly Failure.Raised (c.evaluate scope) := by
  induction c with
  | compare op left right =>
    rw [Condition.evaluate]
    refine left.evaluate_raised.bind fun v _ => right.evaluate_raised.bind fun w _ => ?_
    unfold Comparison.apply
    split
    · exact .ok _
    · exact (alignedOrder_raised v w).map _
  | logic op left right ihleft ihright =>
    cases op with
    | and | or =>
      rw [Condition.evaluate]
      refine ihleft.bind fun t _ => ?_
      split
      · exact .ok _
      · exact ihright.bind fun u _ => .ok _
  | not operand ih =>
    rw [Condition.evaluate]
    exact ih.bind fun t _ => .ok _
  | isNull negated operand =>
    rw [Condition.evaluate]
    exact operand.evaluate_raised.bind fun v _ => .ok _
  | inList negated operand items =>
    rw [Condition.evaluate]
    refine operand.evaluate_raised.bind fun v _ => ?_
    split
    · exact .ok _
    · exact (memberOf_raised v false items).bind fun t _ => .ok _
  | like negated operand pattern =>
    rw [Condition.evaluate]
    exact operand.evaluate_raised.bind fun v _ => pattern.evaluate_raised.bind fun w _ => .ok _

theorem Condition.compile_raised (text : String) : FailsOnly Failure.Raised (Condition.compile text) := by
  unfold Condition.compile
  split
  · exact .ok _
  · exact refuse_raised _

/-- A condition of a rule rejects as the condition that it is, or meets a fault. -/
theorem checkCondition_failsOnly (text : String) (scope : Scope) :
    FailsOnly (fun failure => (∃ cause, failure = .rejection cause ∧ cause.kind = .check) ∨
      ∃ fault, failure = .fault fault) (checkCondition text scope) := by
  have hraised : FailsOnly Failure.Raised (Condition.compile text >>= fun c => c.evaluate scope) :=
    (Condition.compile_raised text).bind fun c _ => c.evaluate_raised
  unfold checkCondition
  dsimp only
  split
  · exact .error (.inl ⟨_, rfl, rfl⟩)
  · exact .ok ()
  · exact .error (.inl ⟨_, rfl, rfl⟩)
  · rename_i failure hother htruth
    cases failure with
    | refusal cause => exact absurd rfl (hother cause)
    | rejection cause => exact (hraised _ htruth).elim
    | fault fault => exact .error (.inr ⟨fault, rfl⟩)

end Relational
