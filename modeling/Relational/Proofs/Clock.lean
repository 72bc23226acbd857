import Mathlib.Tactic.SplitIfs
import Relational.Proofs.Evaluation

/-!
# Conditions that do not read the clock

The functions of the clock are called by their names, or written like columns where no column has the name. A
condition in which none of them stands has one value at all times.
-/

namespace Relational

open Text

/-- The name of a clock function, in upper case. -/
def isClock (function : String) : Bool :=
  (clockValue? default function).isSome

theorem clockValue?_eq_none {function : String} (h : isClock function = false) (now : Timestamp) :
    clockValue? now function = none := by
  unfold isClock clockValue? at h
  unfold clockValue?
  split_ifs at h ⊢ <;> simp_all

/-! ## Expressions and conditions that read the clock -/

mutual

/-- A clock function stands in the expression. `columns` are the names, in small letters, that are columns. -/
def Expr.readsClock (columns : List String) : Expr → Bool
  | .column none name => isClock (upper name) && !columns.contains (lower name)
  | .column (some _) _ => false
  | .literal _ => false
  | .call function args => isClock function || anyReadsClock columns args
  | .binary _ left right => left.readsClock columns || right.readsClock columns

/-- A clock function stands in one of the expressions. -/
def anyReadsClock (columns : List String) : List Expr → Bool
  | [] => false
  | e :: es => e.readsClock columns || anyReadsClock columns es

end

/-- A clock function stands in the condition. -/
def Condition.readsClock (columns : List String) : Condition → Bool
  | .compare _ left right => left.readsClock columns || right.readsClock columns
  | .logic _ left right => left.readsClock columns || right.readsClock columns
  | .not operand => operand.readsClock columns
  | .isNull _ operand => operand.readsClock columns
  | .inList _ operand items => operand.readsClock columns || anyReadsClock columns items
  | .like _ operand pattern => operand.readsClock columns || pattern.readsClock columns

/-- No clock function stands in the condition of a text, if it is one. -/
def ClockFree (columns : List String) (text : String) : Prop :=
  ∀ c, Condition.compile text = .ok c → c.readsClock columns = false

/-! ## What they read -/

/-- A clock function is read. -/
def Reading.ofClock (columns : List String) : Reading → Bool
  | .column none name => isClock (upper name) && !columns.contains (lower name)
  | .column (some _) _ => false
  | .function name => isClock name

mutual

theorem Expr.readings_clockFree {columns : List String} : (e : Expr) → e.readsClock columns = false →
    ∀ r ∈ e.readings, r.ofClock columns = false
  | .column none name, h => by simpa [Expr.readings, Reading.ofClock, Expr.readsClock] using h
  | .column (some table) name, _ => by simp [Expr.readings, Reading.ofClock]
  | .literal value, _ => by simp [Expr.readings]
  | .call function args, h => by
    rw [Expr.readsClock, Bool.or_eq_false_iff] at h
    rw [Expr.readings, List.forall_mem_cons]
    exact ⟨h.1, allReadings_clockFree args h.2⟩
  | .binary op left right, h => by
    rw [Expr.readsClock, Bool.or_eq_false_iff] at h
    rw [Expr.readings, List.forall_mem_append]
    exact ⟨Expr.readings_clockFree left h.1, Expr.readings_clockFree right h.2⟩

theorem allReadings_clockFree {columns : List String} : (es : List Expr) → anyReadsClock columns es = false →
    ∀ r ∈ allReadings es, r.ofClock columns = false
  | [], _ => by simp [allReadings]
  | e :: es, h => by
    rw [anyReadsClock, Bool.or_eq_false_iff] at h
    rw [allReadings, List.forall_mem_append]
    exact ⟨Expr.readings_clockFree e h.1, allReadings_clockFree es h.2⟩

end

theorem Condition.readings_clockFree {columns : List String} {c : Condition} (h : c.readsClock columns = false) :
    ∀ r ∈ c.readings, r.ofClock columns = false := by
  induction c with
  | compare op left right =>
    rw [readsClock, Bool.or_eq_false_iff] at h
    rw [readings, List.forall_mem_append]
    exact ⟨left.readings_clockFree h.1, right.readings_clockFree h.2⟩
  | logic op left right ihl ihr =>
    rw [readsClock, Bool.or_eq_false_iff] at h
    rw [readings, List.forall_mem_append]
    exact ⟨ihl h.1, ihr h.2⟩
  | not operand ih => exact ih h
  | isNull negated operand => exact operand.readings_clockFree h
  | inList negated operand items =>
    rw [readsClock, Bool.or_eq_false_iff] at h
    rw [readings, List.forall_mem_append]
    exact ⟨operand.readings_clockFree h.1, allReadings_clockFree items h.2⟩
  | like negated operand pattern =>
    rw [readsClock, Bool.or_eq_false_iff] at h
    rw [readings, List.forall_mem_append]
    exact ⟨operand.readings_clockFree h.1, pattern.readings_clockFree h.2⟩

/-! ## Their values -/

/-- Every one of the names is found as a column. -/
def FindsColumns (columns : List String) (column? : Option String → String → Option Value) : Prop :=
  ∀ name, lower name ∈ columns → (column? none name).isSome = true

variable {columns : List String} {column? : Option String → String → Option Value}

/-- What is not of the clock is the same at all times. -/
theorem agree_clockFree (hcolumns : FindsColumns columns column?) (now now' : Timestamp) {r : Reading}
    (h : r.ofClock columns = false) : Scope.Agree ⟨column?, now⟩ ⟨column?, now'⟩ r := by
  cases r with
  | function name =>
    show clockValue? now name = clockValue? now' name
    rw [clockValue?_eq_none h, clockValue?_eq_none h]
  | column table name =>
    show Scope.column ⟨column?, now⟩ table name = Scope.column ⟨column?, now'⟩ table name
    unfold Scope.column
    dsimp only
    cases hfound : column? table name with
    | some v => rfl
    | none =>
      cases table with
      | some table => rfl
      | none =>
        have hunknown : columns.contains (lower name) = false := by
          rw [← Bool.not_eq_true, List.contains_iff_mem]
          intro hmem
          have hsome := hcolumns name hmem
          rw [hfound] at hsome
          cases hsome
        have hclock : isClock (upper name) = false := by
          rwa [Reading.ofClock, hunknown, Bool.not_false, Bool.and_true] at h
        simp only [clockValue?_eq_none hclock]

theorem Condition.evaluate_clockFree (hcolumns : FindsColumns columns column?) (now now' : Timestamp)
    {c : Condition} (h : c.readsClock columns = false) :
    c.evaluate ⟨column?, now⟩ = c.evaluate ⟨column?, now'⟩ := by
  apply Condition.evaluate_congr
  intro r hr
  exact agree_clockFree hcolumns now now' (Condition.readings_clockFree h r hr)

/-- A check without the clock has the same outcome at all times. -/
theorem checkCondition_clockFree (hcolumns : FindsColumns columns column?) (now now' : Timestamp)
    {text : String} (h : ClockFree columns text) :
    checkCondition text ⟨column?, now⟩ = checkCondition text ⟨column?, now'⟩ := by
  apply checkCondition_congr
  intro c hc
  exact Condition.evaluate_clockFree hcolumns now now' (h c hc)

end Relational
