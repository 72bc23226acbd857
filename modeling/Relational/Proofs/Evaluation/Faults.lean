import Relational.Proofs.Evaluation.Equivalence
import Relational.Proofs.Evaluation.Nulls
import Relational.Proofs.Evaluation.Raised

/-!
# Where evaluating meets a fault

Operations give NULL where they have no value, and what is not there is refused. Faults are left: a number that cannot
be read, an integer beyond the range of real numbers that meets a real number, and a position in a text that is infinite
or no number. They are met in the order in which a condition is evaluated, so what goes before must have a value, and
must not decide.
-/

namespace Relational

open Decimal

variable {scope : Scope}

/-! ## Steps that meet a fault -/

/-- A step meets a fault. -/
def Faults {α : Type} (x : Except Failure α) : Prop :=
  ∃ fault, x = fail fault

section Faults

variable {α β : Type}

@[simp] theorem faults_ok (a : α) : ¬ Faults (.ok a) := nofun

@[simp] theorem faults_pure (a : α) : ¬ Faults (pure a) := nofun

@[simp] theorem faults_refuse (cause : Refusal) : ¬ Faults (refuse cause : Except Failure α) := nofun

@[simp] theorem faults_fail (fault : Fault) : Faults (fail fault : Except Failure α) := ⟨fault, rfl⟩

theorem faults_bind {x : Except Failure α} {f : α → Except Failure β} :
    Faults (x >>= f) ↔ Faults x ∨ ∃ a, x = .ok a ∧ Faults (f a) := by
  cases x with
  | error failure => simp [Faults, Bind.bind, Except.bind, fail]
  | ok a => simp

theorem faults_map {x : Except Failure α} {f : α → β} : Faults (x.map f) ↔ Faults x := by
  cases x with
  | error failure => simp [Faults, Except.map, fail]
  | ok a => simp [Except.map]

end Faults

/-! ## Numbers -/

theorem Value.faults_realOfInteger {n : Int} : Faults (realOfInteger n) ↔ floatOfInt? n = none := by
  unfold realOfInteger
  cases floatOfInt? n <;> simp

theorem Value.faults_integerOfReal {x : Float} : Faults (integerOfReal x) ↔ Binary.ofFloat? x = none := by
  unfold integerOfReal
  cases Binary.ofFloat? x with
  | none => cases x.isNaN <;> simp
  | some b => simp

namespace Number

/-- An integer beyond the range of real numbers. -/
def IsHuge : Number → Prop
  | .integer n => floatOfInt? n = none
  | .real _ => False

/-- A real number. -/
def IsReal : Number → Prop
  | .integer _ => False
  | .real _ => True

/-- An integer beyond the range of real numbers meets a real number. -/
def Clash (p q : Number) : Prop :=
  p.IsHuge ∧ q.IsReal ∨ p.IsReal ∧ q.IsHuge

theorem faults_toReal (p : Number) : Faults p.toReal ↔ p.IsHuge := by
  cases p with
  | integer n => exact Value.faults_realOfInteger
  | real x => simp [toReal, IsHuge]

end Number

namespace Value

theorem faults_store {type : DataType} {p : Payload} :
    Faults (store type (some p)) ↔ ∃ n, p = .integer n ∧ type.kind = .real ∧ floatOfInt? n = none := by
  unfold store
  dsimp only
  by_cases hkind : p.kind = type.kind
  · rw [dif_pos hkind]
    refine iff_of_false (faults_ok _) ?_
    rintro ⟨n, rfl, hreal, -⟩
    rw [← hkind] at hreal
    cases hreal
  · rw [dif_neg hkind]
    cases p with
    | integer n =>
      by_cases hreal : Kind.real = type.kind
      · cases hfloat : floatOfInt? n <;> simp [hreal.symm, hfloat]
      · simpa [hreal] using fun h : type.kind = .real => absurd h.symm hreal
    | real | text | bool | date | time | timestamp => exact iff_of_false (faults_refuse _) (by simp)

theorem kind_of_integer {v : Value} {n : Int} (h : v.payload = some (.integer n)) : v.type.kind = .integer :=
  (v.fits _ h).symm

theorem payload_of_number {v : Value} {p : Number} (h : v.number? = some p) : v.payload = some p.payload := by
  unfold number? at h
  split at h
  case h_1 n hn =>
    cases h
    exact hn
  case h_2 x hx =>
    cases h
    exact hx
  case h_3 => cases h

theorem kind_common {left right : DataType} (hleft : left.kind = .integer) (hright : right.kind = .integer) :
    (left.common right).kind = .integer := by
  cases left <;> cases hleft <;> cases right <;> cases hright <;> rfl

theorem faults_numeric {onIntegers : Int → Int → Int} {onReals : Float → Float → Float} {v w : Value} :
    Faults (numeric onIntegers onReals v w) ↔
      ∃ p q, v.number? = some p ∧ w.number? = some q ∧ p.Clash q := by
  unfold numeric
  dsimp only
  split
  case h_1 m n hm hn =>
    have hkind := kind_common (kind_of_integer (payload_of_number hm)) (kind_of_integer (payload_of_number hn))
    simp [faults_store, hkind, hm, hn, Number.Clash, Number.IsReal]
  case h_2 p q hother hp hq =>
    simp only [faults_bind, Number.faults_toReal, faults_store, reduceCtorEq, false_and, exists_false, and_false,
      or_false, hp, hq, Option.some.injEq, exists_and_left, exists_eq_left']
    cases p with
    | integer m =>
      cases q with
      | integer n => exact (hother m n rfl rfl).elim
      | real y => simp [Number.Clash, Number.IsHuge, Number.IsReal]
    | real x => simp [Number.Clash, Number.IsHuge, Number.IsReal, Number.toReal]
  case h_3 hother =>
    refine iff_of_false (faults_ok _) ?_
    rintro ⟨p, q, hp, hq, -⟩
    exact hother p q hp hq

/-- Only integers are divided without a remainder. -/
theorem kind_of_wholeQuotient {v w : Value} {p q : Number} {n : Int} (hp : v.number? = some p)
    (hq : w.number? = some q) (hn : p.wholeQuotient? q = some n) : (v.type.common w.type).kind = .integer := by
  unfold Number.wholeQuotient? at hn
  split at hn
  case h_1 => exact kind_common (kind_of_integer (payload_of_number hp)) (kind_of_integer (payload_of_number hq))
  case h_2 => cases hn

/-- The quotient of two numbers needs the divisor as a real number, and the dividend as well unless it can be divided
without a remainder. -/
theorem faults_div {v w : Value} :
    Faults (v.div w) ↔ ∃ p q, v.number? = some p ∧ w.number? = some q ∧ (q.IsHuge ∨
      p.IsHuge ∧ p.wholeQuotient? q = none ∧ ∃ divisor, q.toReal = .ok divisor ∧ ¬ divisor.abs < tolerance) := by
  unfold div
  dsimp only
  split
  case h_1 p q hp hq =>
    simp only [faults_bind, Number.faults_toReal, hp, hq, Option.some.injEq, exists_and_left, exists_eq_left']
    refine or_congr_right (Iff.trans (exists_congr fun divisor => and_congr_right fun _ =>
      (?_ : _ ↔ ¬ divisor.abs < tolerance ∧ p.wholeQuotient? q = none ∧ p.IsHuge)) ?_)
    · split
      case isTrue hzero => simp [hzero]
      case isFalse hzero =>
        rw [and_iff_right hzero]
        split
        case h_1 n hn =>
          have hkind : (v.type.common w.type).kind = .integer := kind_of_wholeQuotient hp hq hn
          simp [faults_store, hkind, hn]
        case h_2 hnone => simp [faults_bind, Number.faults_toReal, faults_store, hnone]
    · constructor
      · rintro ⟨divisor, hdivisor, hzero, hnone, hhuge⟩
        exact ⟨hhuge, hnone, divisor, hdivisor, hzero⟩
      · rintro ⟨hhuge, hnone, divisor, hdivisor, hzero⟩
        exact ⟨divisor, hdivisor, hzero, hnone, hhuge⟩
  case h_2 hother =>
    refine iff_of_false (faults_ok _) ?_
    rintro ⟨p, q, hp, hq, -⟩
    exact hother p q hp hq

theorem faults_mod (v w : Value) : ¬ Faults (v.mod w) := by
  unfold mod
  dsimp only
  split
  case h_1 m n hm hn =>
    have hkind := kind_common (kind_of_integer hm) (kind_of_integer hn)
    split
    · simp
    · simp [faults_store, hkind]
  case h_2 => simp

theorem faults_abs (v : Value) : ¬ Faults v.abs := by
  unfold abs
  split
  case h_1 p hp =>
    rw [faults_store]
    rintro ⟨n, hn, hreal, -⟩
    cases p with
    | integer m =>
      rw [kind_of_integer (payload_of_number hp)] at hreal
      cases hreal
    | real x => cases hn
  case h_2 => simp

theorem faults_order {v w : Value} :
    Faults (v.order w) ↔ ∃ p q, v.number? = some p ∧ w.number? = some q ∧ p.Clash q := by
  unfold order number?
  cases v.payload with
  | none => cases w.payload <;> simp
  | some p =>
    cases w.payload with
    | none => simp
    | some q =>
      -- an integer and a real number are the only pair that needs a conversion
      cases p <;> cases q <;>
        simp [payloadOrder, faults_map, faults_realOfInteger, Number.Clash, Number.IsHuge, Number.IsReal]

/-- An infinity, or no number. -/
def NotFinite (v : Value) : Prop :=
  ∃ x, v.payload = some (.real x) ∧ Binary.ofFloat? x = none

theorem faults_toInteger? {v : Value} : Faults v.toInteger? ↔ v.NotFinite := by
  unfold toInteger? NotFinite
  split <;> simp_all [faults_map, faults_integerOfReal]

theorem toInteger?_eq_ok {v : Value} (h : ¬ v.NotFinite) : ∃ n, v.toInteger? = .ok n := by
  unfold toInteger?
  split
  case h_2 x hx =>
    cases hb : Binary.ofFloat? x with
    | none => exact absurd ⟨x, hx, hb⟩ h
    | some b => exact ⟨some b.truncate, by simp [integerOfReal, hb, Except.map]⟩
  all_goals exact ⟨_, rfl⟩

end Value

/-! ## Operators -/

/-- The operator meets a fault on two numbers. Sum, difference and product need real numbers if one is real. The
quotient needs the divisor as a real number, and the dividend as well unless it can be divided without a remainder. -/
def Arithmetic.FaultsOn (p q : Number) : Arithmetic → Prop
  | .add | .sub | .mul => p.Clash q
  | .div => q.IsHuge ∨
    p.IsHuge ∧ p.wholeQuotient? q = none ∧ ∃ divisor, q.toReal = .ok divisor ∧ ¬ divisor.abs < Value.tolerance
  | .mod => False

theorem Arithmetic.faults_apply {op : Arithmetic} {v w : Value} : Faults (op.apply v w) ↔
    ∃ p q, (alignPresent v w).1.number? = some p ∧ (alignPresent v w).2.number? = some q ∧ op.FaultsOn p q := by
  cases op with
  | add | sub | mul => exact Value.faults_numeric
  | div => exact Value.faults_div
  | mod => exact iff_of_false (Value.faults_mod _ _) (by simp [FaultsOn])

/-- Two values that are not NULL cannot be compared: side by side they are an integer and a real number, and the integer
is beyond the range of real numbers. -/
def Value.Clash (v w : Value) : Prop :=
  v.isNull = false ∧ w.isNull = false ∧
    ∃ p q, (align v w).1.number? = some p ∧ (align v w).2.number? = some q ∧ p.Clash q

/-- Numbers are compared as they are. -/
theorem align_numbers {v w : Value} {p q : Number} (hv : v.number? = some p) (hw : w.number? = some q) :
    align v w = (v, w) := by
  unfold align Value.kind?
  rw [Value.payload_of_number hv, Value.payload_of_number hw]
  cases p <;> cases q <;> rfl

theorem faults_alignedOrder {v w : Value} (hv : v.isNull = false) (hw : w.isNull = false) :
    Faults (alignedOrder v w) ↔ v.Clash w := by
  rw [Value.Clash, and_iff_right hv, and_iff_right hw]
  exact Value.faults_order

theorem Comparison.faults_apply {op : Comparison} {v w : Value} : Faults (op.apply v w) ↔ v.Clash w := by
  unfold apply
  split
  case isTrue hnull =>
    refine iff_of_false (faults_ok _) fun h => ?_
    simp [h.1, h.2.1] at hnull
  case isFalse hpresent =>
    rw [Bool.or_eq_true, not_or, Bool.not_eq_true, Bool.not_eq_true] at hpresent
    rw [faults_map, faults_alignedOrder hpresent.1 hpresent.2]

/-! ## Functions -/

theorem faults_substring {v start : Value} {length : Option Value} :
    Faults (substring v start length) ↔ start.NotFinite ∨ ∃ n, length = some n ∧ n.NotFinite := by
  by_cases hstart : start.NotFinite
  · refine iff_of_true ?_ (.inl hstart)
    exact faults_bind.2 (.inl (Value.faults_toInteger?.2 hstart))
  · obtain ⟨position, hposition⟩ := Value.toInteger?_eq_ok hstart
    rw [substring, hposition, ok_bind, or_iff_right hstart]
    cases length with
    | none => exact iff_of_false (faults_ok _) (by simp)
    | some n => simp [faults_bind, Value.faults_toInteger?]

theorem substringNames_strict {function : String} (h : function ∈ substringNames) : function ∈ strictFunctions := by
  rcases List.mem_pair.1 h with rfl | rfl <;> decide

theorem faults_callFunction {now : Timestamp} {function : String} {args : List Value} :
    Faults (callFunction now function args) ↔ function ∈ substringNames ∧ (args.length = 2 ∨ args.length = 3) ∧
      ∃ v ∈ args.drop 1, v.NotFinite := by
  unfold callFunction
  split
  case h_1 v hclock =>
    refine iff_of_false (faults_ok _) fun h => ?_
    rw [clockValue?_eq_none (isClock_of_strict function (substringNames_strict h.1)) now] at hclock
    cases hclock
  case h_2 =>
    split
    case h_5 | h_6 | h_7 | h_8 => simp [faults_substring, substringNames]
    case h_10 => simp [Value.faults_abs, substringNames]
    case h_12 _ _ _ _ htwo hthree htwo' hthree' _ _ _ =>
      refine iff_of_false (faults_refuse _) ?_
      rintro ⟨hfunction, hlength, -⟩
      rcases hlength.imp List.length_eq_two.1 List.length_eq_three.1 with ⟨v, start, rfl⟩ | ⟨v, start, length, rfl⟩
      · rcases List.mem_pair.1 hfunction with rfl | rfl
        · exact htwo v start rfl rfl
        · exact htwo' v start rfl rfl
      · rcases List.mem_pair.1 hfunction with rfl | rfl
        · exact hthree v start length rfl rfl
        · exact hthree' v start length rfl rfl
    all_goals simp [substringNames]

/-! ## Expressions -/

/-- A number without a point or an exponent that is no integer. -/
def Literal.Unreadable (value : Literal) : Prop :=
  ∃ text, value = .number text ∧ isRealNumeral text = false ∧ readInteger? text = none

theorem Literal.faults_evaluate {value : Literal} : Faults value.evaluate ↔ value.Unreadable := by
  cases value with
  | number text =>
    rw [evaluate, numberValue]
    cases hreal : isRealNumeral text with
    | true => cases readFloat? text <;> simp [Unreadable, hreal]
    | false => cases hread : readInteger? text <;> simp [Unreadable, hreal, hread]
  | string | bool | null => exact iff_of_false (faults_ok _) (by simp [Unreadable])

theorem Scope.faults_column (scope : Scope) (table : Option String) (name : String) :
    ¬ Faults (scope.column table name) := by
  unfold column
  split
  · simp
  · split <;> simp

mutual

/-- Evaluating the expression meets a fault: in the first operand that does, or, with the values of all operands, in the
operation. -/
def Expr.MeetsFault (scope : Scope) : Expr → Prop
  | .column _ _ => False
  | .literal value => value.Unreadable
  | .call function args => anyMeetsFault scope args ∨ function ∈ substringNames ∧
    ∃ vs, evaluateAll scope args = .ok vs ∧ (vs.length = 2 ∨ vs.length = 3) ∧ ∃ v ∈ vs.drop 1, v.NotFinite
  | .binary op left right => left.MeetsFault scope ∨ ∃ v, left.evaluate scope = .ok v ∧
    (right.MeetsFault scope ∨ ∃ w, right.evaluate scope = .ok w ∧ ∃ p q,
      (alignPresent v w).1.number? = some p ∧ (alignPresent v w).2.number? = some q ∧ op.FaultsOn p q)

/-- Evaluating the expressions from left to right meets a fault: those before have values. -/
def anyMeetsFault (scope : Scope) : List Expr → Prop
  | [] => False
  | e :: es => e.MeetsFault scope ∨ ∃ v, e.evaluate scope = .ok v ∧ anyMeetsFault scope es

end

mutual

theorem Expr.faults_evaluate : (e : Expr) → (Faults (e.evaluate scope) ↔ e.MeetsFault scope)
  | .column table name => by
    rw [Expr.evaluate, Expr.MeetsFault]
    exact iff_of_false (scope.faults_column table name) id
  | .literal value => by
    rw [Expr.evaluate, Expr.MeetsFault]
    exact value.faults_evaluate
  | .call function args => by
    rw [Expr.evaluate, Expr.MeetsFault, faults_bind, faults_evaluateAll args]
    simp only [faults_callFunction]
    refine or_congr_right ⟨?_, ?_⟩
    · rintro ⟨vs, hvs, hfunction, hfault⟩
      exact ⟨hfunction, vs, hvs, hfault⟩
    · rintro ⟨hfunction, vs, hvs, hfault⟩
      exact ⟨vs, hvs, hfunction, hfault⟩
  | .binary op left right => by
    rw [Expr.evaluate, Expr.MeetsFault, faults_bind, left.faults_evaluate]
    simp only [faults_bind, right.faults_evaluate, Arithmetic.faults_apply]

theorem faults_evaluateAll : (es : List Expr) → (Faults (evaluateAll scope es) ↔ anyMeetsFault scope es)
  | [] => by
    rw [evaluateAll, anyMeetsFault]
    exact iff_of_false (faults_ok _) id
  | e :: es => by
    rw [evaluateAll, anyMeetsFault, faults_bind, e.faults_evaluate]
    simp [faults_bind, faults_evaluateAll es]

end

/-! ## Conditions -/

/-- Looking for a value among the items meets a fault: no item before is equal. -/
def memberMeetsFault (scope : Scope) (v : Value) : List Expr → Prop
  | [] => False
  | e :: es => e.MeetsFault scope ∨ ∃ w, e.evaluate scope = .ok w ∧
    (v.Clash w ∨ (w.isNull = true ∨ ∃ order, alignedOrder v w = .ok order ∧ order ≠ .eq) ∧ memberMeetsFault scope v es)

theorem faults_memberOf {v : Value} (hpresent : v.isNull = false) (sawNull : Bool) (es : List Expr) :
    Faults (memberOf scope v sawNull es) ↔ memberMeetsFault scope v es := by
  induction es generalizing sawNull with
  | nil => exact iff_of_false (faults_ok _) id
  | cons e es ih =>
    rw [memberOf, memberMeetsFault, faults_bind, e.faults_evaluate]
    refine or_congr_right (exists_congr fun w => and_congr_right fun _ => ?_)
    split
    case isTrue hnull => simp [ih, hnull, Value.Clash]
    case isFalse hw =>
      rw [Bool.not_eq_true] at hw
      rw [faults_bind, faults_alignedOrder hpresent hw, hw]
      refine or_congr_right ?_
      simp only [Bool.false_eq_true, false_or]
      constructor
      · rintro ⟨order, horder, hfault⟩
        split at hfault
        case isTrue => exact (faults_pure _ hfault).elim
        case isFalse hother => exact ⟨⟨order, horder, by simpa using hother⟩, (ih sawNull).1 hfault⟩
      · rintro ⟨⟨order, horder, hother⟩, hfault⟩
        refine ⟨order, horder, ?_⟩
        rw [if_neg (by simpa using hother)]
        exact (ih sawNull).2 hfault

/-- Evaluating the condition meets a fault. -/
def Condition.MeetsFault (scope : Scope) : Condition → Prop
  | .compare _ left right => left.MeetsFault scope ∨ ∃ v, left.evaluate scope = .ok v ∧
    (right.MeetsFault scope ∨ ∃ w, right.evaluate scope = .ok w ∧ v.Clash w)
  | .logic op left right => left.MeetsFault scope ∨
    ∃ t, left.evaluate scope = .ok t ∧ t ≠ some op.decisive ∧ right.MeetsFault scope
  | .not operand => operand.MeetsFault scope
  | .isNull _ operand => operand.MeetsFault scope
  | .inList _ operand items => operand.MeetsFault scope ∨
    ∃ v, operand.evaluate scope = .ok v ∧ v.isNull = false ∧ memberMeetsFault scope v items
  | .like _ operand pattern => operand.MeetsFault scope ∨
    ∃ v, operand.evaluate scope = .ok v ∧ pattern.MeetsFault scope

theorem Condition.faults_evaluate (c : Condition) : Faults (c.evaluate scope) ↔ c.MeetsFault scope := by
  induction c with
  | compare op left right =>
    rw [evaluate, MeetsFault, faults_bind, left.faults_evaluate]
    simp only [faults_bind, right.faults_evaluate, Comparison.faults_apply]
  | logic op left right ihleft ihright =>
    rw [evaluate_logic, MeetsFault, faults_bind, ihleft]
    refine or_congr_right (exists_congr fun t => and_congr_right fun _ => ?_)
    unfold Connective.next
    split
    case isTrue hdecided => simp [hdecided]
    case isFalse hopen => rw [faults_map, ihright, and_iff_right hopen]
  | not operand ih =>
    rw [evaluate, MeetsFault, faults_bind, ih]
    simp
  | isNull negated operand =>
    rw [evaluate, MeetsFault, faults_bind, operand.faults_evaluate]
    simp
  | inList negated operand items =>
    rw [evaluate, MeetsFault, faults_bind, operand.faults_evaluate]
    refine or_congr_right (exists_congr fun v => and_congr_right fun _ => ?_)
    split
    case isTrue hnull => simp [hnull]
    case isFalse hpresent =>
      rw [Bool.not_eq_true] at hpresent
      simp [faults_bind, faults_memberOf hpresent, hpresent]
  | like negated operand pattern =>
    rw [evaluate, MeetsFault, faults_bind, operand.faults_evaluate]
    simp [faults_bind, pattern.faults_evaluate]

end Relational
