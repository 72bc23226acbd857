import Relational.Constraint
import Relational.Proofs.Failure

/-!
# What a condition reads

The value of an expression depends on the columns that it names and on the functions that it calls, which may be
functions of the clock, and on nothing else of its scope. Scopes that agree on these agree on the condition.
-/

namespace Relational

/-- What an expression reads in its scope. -/
inductive Reading where
  | column (table : Option String) (name : String)
  | function (name : String)

mutual

/-- What an expression reads, from left to right. -/
def Expr.readings : Expr → List Reading
  | .column table name => [.column table name]
  | .literal _ => []
  | .call function args => .function function :: allReadings args
  | .binary _ left right => left.readings ++ right.readings

/-- What expressions read, from left to right. -/
def allReadings : List Expr → List Reading
  | [] => []
  | e :: es => e.readings ++ allReadings es

end

/-- What a condition reads, from left to right. -/
def Condition.readings : Condition → List Reading
  | .compare _ left right => left.readings ++ right.readings
  | .logic _ left right => left.readings ++ right.readings
  | .not operand => operand.readings
  | .isNull _ operand => operand.readings
  | .inList _ operand items => operand.readings ++ allReadings items
  | .like _ operand pattern => operand.readings ++ pattern.readings

/-- Two scopes have the same for a reading. -/
def Scope.Agree (scope scope' : Scope) : Reading → Prop
  | .column table name => scope.column table name = scope'.column table name
  | .function name => clockValue? scope.now name = clockValue? scope'.now name

variable {scope scope' : Scope}

mutual

theorem Expr.evaluate_congr : (e : Expr) → (∀ r ∈ e.readings, scope.Agree scope' r) →
    e.evaluate scope = e.evaluate scope'
  | .column table name, h => by
    rw [Expr.evaluate, Expr.evaluate]
    exact h (.column table name) (by simp [Expr.readings])
  | .literal value, _ => by rw [Expr.evaluate, Expr.evaluate]
  | .call function args, h => by
    have hclock : clockValue? scope.now function = clockValue? scope'.now function :=
      h (.function function) (by simp [Expr.readings])
    have hargs := evaluateAll_congr args fun r hr => h r (by simp [Expr.readings, hr])
    rw [Expr.evaluate, Expr.evaluate, hargs]
    simp only [callFunction, hclock]
  | .binary op left right, h => by
    rw [Expr.readings, List.forall_mem_append] at h
    rw [Expr.evaluate, Expr.evaluate, Expr.evaluate_congr left h.1, Expr.evaluate_congr right h.2]

theorem evaluateAll_congr : (es : List Expr) → (∀ r ∈ allReadings es, scope.Agree scope' r) →
    evaluateAll scope es = evaluateAll scope' es
  | [], _ => by rw [evaluateAll, evaluateAll]
  | e :: es, h => by
    rw [allReadings, List.forall_mem_append] at h
    rw [evaluateAll, evaluateAll, Expr.evaluate_congr e h.1, evaluateAll_congr es h.2]

end

theorem memberOf_congr {items : List Expr} (h : ∀ r ∈ allReadings items, scope.Agree scope' r) (v : Value)
    (sawNull : Bool) : memberOf scope v sawNull items = memberOf scope' v sawNull items := by
  induction items generalizing sawNull with
  | nil => rfl
  | cons e es ih =>
    rw [allReadings, List.forall_mem_append] at h
    rw [memberOf, memberOf, e.evaluate_congr h.1]
    simp only [ih h.2]

theorem Condition.evaluate_congr {c : Condition} (h : ∀ r ∈ c.readings, scope.Agree scope' r) :
    c.evaluate scope = c.evaluate scope' := by
  induction c with
  | compare op left right =>
    rw [readings, List.forall_mem_append] at h
    rw [evaluate, evaluate, left.evaluate_congr h.1, right.evaluate_congr h.2]
  | logic op left right ihl ihr =>
    rw [readings, List.forall_mem_append] at h
    cases op <;> rw [evaluate, evaluate, ihl h.1, ihr h.2]
  | not operand ih =>
    rw [readings] at h
    rw [evaluate, evaluate, ih h]
  | isNull negated operand =>
    rw [readings] at h
    rw [evaluate, evaluate, operand.evaluate_congr h]
  | inList negated operand items =>
    rw [readings, List.forall_mem_append] at h
    rw [evaluate, evaluate, operand.evaluate_congr h.1]
    simp only [memberOf_congr h.2]
  | like negated operand pattern =>
    rw [readings, List.forall_mem_append] at h
    rw [evaluate, evaluate, operand.evaluate_congr h.1, pattern.evaluate_congr h.2]

/-- A check has the same outcome where its condition has the same truth. -/
theorem checkCondition_congr {text : String}
    (h : ∀ c, Condition.compile text = .ok c → c.evaluate scope = c.evaluate scope') :
    checkCondition text scope = checkCondition text scope' := by
  unfold checkCondition
  cases hcompiled : Condition.compile text with
  | error failure => rfl
  | ok c =>
    have htruth : ((Except.ok c : Except Failure Condition) >>= fun c => c.evaluate scope)
        = (Except.ok c : Except Failure Condition) >>= fun c => c.evaluate scope' := h c hcompiled
    simp only [htruth]

end Relational
