import Mathlib.Logic.Relation
import Relational.Condition.Parser
import Relational.Proofs.Clock

/-!
# Where NULL comes from

An operator has no value if an operand has none, and neither has a function, but for COALESCE and the functions of the
clock. So NULL goes up from a leaf to the whole expression. The length of SUBSTRING lets it not pass: a length that is
NULL is taken for one that is left out.
-/

namespace Relational

variable {scope : Scope}

/-! ## Operators -/

theorem none_or_none {α β : Type} {x : Option α} {y : Option β} (h : ∀ a b, x = some a → y = some b → False) :
    x = none ∨ y = none := by
  cases x with
  | none => exact .inl rfl
  | some a =>
    cases y with
    | none => exact .inr rfl
    | some b => exact (h a b rfl rfl).elim

namespace Value

theorem isNull_of_store {type : DataType} {p : Payload} {v : Value} (h : store type (some p) = .ok v) :
    v.isNull = false := by
  unfold store at h
  dsimp only at h
  repeat' split at h
  all_goals first | (cases h; rfl) | simp at h

theorem number?_of_isNull {v : Value} (h : v.isNull = true) : v.number? = none := by
  rw [isNull, Option.isNone_iff_eq_none] at h
  rw [number?, h]

theorem isNull_numeric {onIntegers : Int → Int → Int} {onReals : Float → Float → Float} {v w u : Value}
    (h : numeric onIntegers onReals v w = .ok u) :
    u.isNull = true ↔ v.number? = none ∨ w.number? = none := by
  unfold numeric at h
  dsimp only at h
  split at h
  case h_1 m n hm hn => simp [isNull_of_store h, hm, hn]
  case h_2 p q _ hp hq =>
    obtain ⟨x, -, h⟩ := bind_eq_ok.1 h
    obtain ⟨y, -, h⟩ := bind_eq_ok.1 h
    simp [isNull_of_store h, hp, hq]
  case h_3 hnumbers =>
    cases h
    exact iff_of_true rfl (none_or_none hnumbers)

end Value

/-- The operator has no value on two aligned values: one of them is no number, or the divisor counts as zero. -/
def Arithmetic.UndefinedOn (v w : Value) : Arithmetic → Prop
  | .add | .sub | .mul => v.number? = none ∨ w.number? = none
  | .div => v.number? = none ∨ w.number? = none ∨
    ∃ q divisor, w.number? = some q ∧ q.toReal = .ok divisor ∧ divisor.abs < Value.tolerance
  | .mod => ∀ m n : Int, v.payload = some (.integer m) → w.payload = some (.integer n) → n = 0

theorem Value.isNull_div {v w u : Value} (h : v.div w = .ok u) :
    u.isNull = true ↔ Arithmetic.div.UndefinedOn v w := by
  unfold div at h
  dsimp only at h
  split at h
  case h_1 p q hp hq =>
    obtain ⟨divisor, hdivisor, h⟩ := bind_eq_ok.1 h
    simp only [Arithmetic.UndefinedOn, hp, hq, reduceCtorEq, false_or, Option.some.injEq]
    split at h
    case isTrue hzero =>
      cases h
      exact iff_of_true rfl ⟨q, divisor, rfl, hdivisor, hzero⟩
    case isFalse hzero =>
      have hpresent : u.isNull = false := by
        split at h
        · exact isNull_of_store h
        · obtain ⟨dividend, -, h⟩ := bind_eq_ok.1 h
          exact isNull_of_store h
      rw [hpresent]
      refine iff_of_false Bool.false_ne_true ?_
      rintro ⟨_, _, rfl, hd, hsmall⟩
      rw [hdivisor] at hd
      cases hd
      exact hzero hsmall
  case h_2 hnumbers =>
    cases h
    exact iff_of_true rfl ((none_or_none hnumbers).imp_right .inl)

theorem Value.isNull_mod {v w u : Value} (h : v.mod w = .ok u) :
    u.isNull = true ↔ Arithmetic.mod.UndefinedOn v w := by
  unfold mod at h
  dsimp only at h
  split at h
  case h_1 m n hm hn =>
    simp only [Arithmetic.UndefinedOn, hm, hn, Option.some.injEq, Payload.integer.injEq]
    split at h
    case isTrue hzero =>
      cases h
      exact iff_of_true rfl (by rintro _ _ rfl rfl; exact hzero)
    case isFalse hzero =>
      rw [isNull_of_store h]
      exact iff_of_false Bool.false_ne_true fun hall => hzero (hall m n rfl rfl)
  case h_2 hintegers =>
    cases h
    exact iff_of_true rfl fun m n hm hn => (hintegers m n hm hn).elim

/-- An operator gives NULL if it has an operand that is NULL, or has no value on its operands. -/
theorem Arithmetic.isNull_apply {op : Arithmetic} {v w u : Value} (h : op.apply v w = .ok u) :
    u.isNull = true ↔ v.isNull = true ∨ w.isNull = true ∨
      v.isNull = false ∧ w.isNull = false ∧ op.UndefinedOn (align v w).1 (align v w).2 := by
  have haligned : u.isNull = true ↔ op.UndefinedOn (alignPresent v w).1 (alignPresent v w).2 := by
    cases op with
    | add | sub | mul => exact Value.isNull_numeric h
    | div => exact Value.isNull_div h
    | mod => exact Value.isNull_mod h
  rw [haligned]
  by_cases hnull : v.isNull = true ∨ w.isNull = true
  · have hsame : alignPresent v w = (v, w) := by
      rw [alignPresent, if_pos (by simpa using hnull)]
    rw [hsame]
    refine iff_of_true ?_ (by tauto)
    have hnumber : v.number? = none ∨ w.number? = none :=
      hnull.imp Value.number?_of_isNull Value.number?_of_isNull
    cases op with
    | add | sub | mul => exact hnumber
    | div => exact hnumber.imp_right .inl
    | mod =>
      rintro m n (hm : v.payload = _) (hn : w.payload = _)
      simp [Value.isNull, hm, hn] at hnull
  · rw [not_or, Bool.not_eq_true, Bool.not_eq_true] at hnull
    have hpresent : alignPresent v w = align v w := by
      rw [alignPresent, if_neg (by simp [hnull])]
    simp [hpresent, hnull]

/-! ## Functions -/

/-- The functions that have no value without their arguments. -/
def strictFunctions : List String :=
  ["UPPER", "LOWER", "LENGTH", "LEN", "SUBSTRING", "SUBSTR", "CONCAT", "ABS"]

/-- The names of SUBSTRING. -/
def substringNames : List String :=
  ["SUBSTRING", "SUBSTR"]

/-- The arguments that a function needs. The length of SUBSTRING may be left out. -/
def requiredArgs {α : Type} (function : String) (args : List α) : List α :=
  if function ∈ substringNames then args.take 2 else args

/-- The function has no value on arguments that have one: ABS of something that is no number, or SUBSTRING from a start
that is no integer. -/
def UndefinedOn (function : String) (args : List Value) : Prop :=
  (function = "ABS" ∧ ∃ v ∈ args, v.number? = none) ∨
    (function ∈ substringNames ∧ ∃ start, args[1]? = some start ∧ start.toInteger? = .ok none)

namespace Value

theorem toInteger?_of_isNull {v : Value} (h : v.isNull = true) : v.toInteger? = .ok none := by
  rw [isNull, Option.isNone_iff_eq_none] at h
  rw [toInteger?, h]

/-- Many functions give NULL for NULL and something else for anything else. -/
theorem isNull_unless {v : Value} {type : DataType} (hv : v.isNull = false) (null? : Bool) :
    (if null? then null type else v).isNull = null? := by
  cases null? with
  | true => rfl
  | false => exact hv

theorem isNull_upper (v : Value) : v.upper.isNull = v.isNull :=
  isNull_unless rfl _

theorem isNull_lower (v : Value) : v.lower.isNull = v.isNull :=
  isNull_unless rfl _

theorem isNull_length (v : Value) : v.length.isNull = v.isNull :=
  isNull_unless rfl _

theorem isNull_substring (v : Value) (start : Int) (length : Option Int) :
    (v.substring start length).isNull = v.isNull :=
  isNull_unless rfl _

theorem isNull_concat (v w : Value) : (v.concat w).isNull = (v.isNull || w.isNull) :=
  isNull_unless rfl _

theorem isNull_foldl_concat (v : Value) (vs : List Value) :
    (vs.foldl concat v).isNull = true ↔ ∃ w ∈ v :: vs, w.isNull = true := by
  induction vs generalizing v with
  | nil => simp
  | cons w vs ih => simp [ih, isNull_concat, or_assoc]

theorem isNull_abs {v u : Value} (h : v.abs = .ok u) : u.isNull = true ↔ v.number? = none := by
  unfold abs at h
  split at h
  case h_1 p hp => simp [isNull_of_store h, hp]
  case h_2 hnone =>
    cases h
    exact iff_of_true rfl hnone

end Value

theorem isNull_substring {v start u : Value} {length : Option Value} (h : substring v start length = .ok u) :
    u.isNull = true ↔ v.isNull = true ∨ start.toInteger? = .ok none := by
  obtain ⟨position, hstart, h⟩ := bind_eq_ok.1 h
  have hvalue : ∃ length, u = position.elim (.null .varchar) (v.substring · length) := by
    cases length with
    | none =>
      cases h
      exact ⟨none, by cases position <;> rfl⟩
    | some n =>
      obtain ⟨length, -, h⟩ := bind_eq_ok.1 h
      cases h
      exact ⟨length, by cases position <;> rfl⟩
  obtain ⟨length, rfl⟩ := hvalue
  rw [hstart]
  cases position with
  | none => simp [Value.isNull, Value.null]
  | some position => simp [Value.isNull_substring]

theorem isNull_substringArgs {function : String} (hfunction : function ∈ substringNames) {v start : Value}
    {rest : List Value} : (∃ arg ∈ requiredArgs function (v :: start :: rest), arg.isNull = true) ∨
      UndefinedOn function (v :: start :: rest) ↔ v.isNull = true ∨ start.toInteger? = .ok none := by
  have hname : function ≠ "ABS" := by
    rintro rfl
    simp [substringNames] at hfunction
  have hnull : start.isNull = true → start.toInteger? = .ok none := Value.toInteger?_of_isNull
  simp [requiredArgs, UndefinedOn, hfunction, hname]
  tauto

theorem isClock_of_strict : ∀ function ∈ strictFunctions, isClock function = false := by
  decide

/-- A function gives NULL if it has an argument that is NULL, or has no value on its arguments. -/
theorem isNull_callFunction {now : Timestamp} {function : String} {args : List Value} {v : Value}
    (hstrict : function ∈ strictFunctions) (h : callFunction now function args = .ok v) :
    v.isNull = true ↔ (∃ arg ∈ requiredArgs function args, arg.isNull = true) ∨ UndefinedOn function args := by
  have hclock : clockValue? now function = none := clockValue?_eq_none (isClock_of_strict function hstrict) now
  unfold callFunction at h
  rw [hclock] at h
  dsimp only at h
  split at h
  case h_1 w | h_2 w | h_3 w | h_4 w =>
    cases h
    simp [requiredArgs, UndefinedOn, substringNames, Value.isNull_upper, Value.isNull_lower, Value.isNull_length]
  case h_5 w start | h_6 w start length | h_7 w start | h_8 w start length =>
    rw [isNull_substring h, isNull_substringArgs (by decide)]
  case h_9 w vs =>
    cases h
    rw [Value.isNull_foldl_concat]
    simp [requiredArgs, UndefinedOn, substringNames]
  case h_10 w =>
    rw [Value.isNull_abs h]
    simpa [requiredArgs, UndefinedOn, substringNames] using Value.number?_of_isNull
  case h_11 => simp [strictFunctions] at hstrict
  case h_12 => simp at h

/-! ## Expressions -/

namespace Expr

/-- The expression calls no function but strict ones. -/
def Strict (e : Expr) : Prop :=
  ∀ function, Reading.function function ∈ e.readings → function ∈ strictFunctions

/-- The expressions that an expression is computed from. -/
def operands : Expr → List Expr
  | .column _ _ | .literal _ => []
  | .call _ args => args
  | .binary _ left right => [left, right]

/-- The operands but for the length of SUBSTRING. -/
def requiredOperands : Expr → List Expr
  | .column _ _ | .literal _ => []
  | .call function args => requiredArgs function args
  | .binary _ left right => [left, right]

/-- A literal or a column. -/
def IsLeaf : Expr → Prop
  | .column _ _ | .literal _ => True
  | .call _ _ | .binary _ _ _ => False

/-- The second expression stands in the first. -/
def Part : Expr → Expr → Prop :=
  Relation.ReflTransGen fun e operand => operand ∈ e.operands

/-- The second expression stands in the first, and not in the length of a SUBSTRING. -/
def RequiredPart : Expr → Expr → Prop :=
  Relation.ReflTransGen fun e operand => operand ∈ e.requiredOperands

/-- The expression is NULL. -/
def IsNullIn (scope : Scope) (e : Expr) : Prop :=
  ∃ v, e.evaluate scope = .ok v ∧ v.isNull = true

/-- NULL begins here: at a leaf that is NULL, or at an operation that has no value on operands that have one. -/
def NullSource (scope : Scope) : Expr → Prop
  | .column table name => (column table name).IsNullIn scope
  | .literal value => (literal value).IsNullIn scope
  | .call function args => ∃ vs, evaluateAll scope args = .ok vs ∧
    (∀ v ∈ requiredArgs function vs, v.isNull = false) ∧ UndefinedOn function vs
  | .binary op left right => ∃ v w, left.evaluate scope = .ok v ∧ right.evaluate scope = .ok w ∧
    v.isNull = false ∧ w.isNull = false ∧ op.UndefinedOn (align v w).1 (align v w).2

end Expr

theorem evaluateAll_eq_mapM (es : List Expr) : evaluateAll scope es = es.mapM (Expr.evaluate scope) := by
  induction es with
  | nil => rw [evaluateAll, List.mapM_nil]; rfl
  | cons e es ih => rw [evaluateAll, List.mapM_cons, ih]

theorem evaluateAll_eq_ok {es : List Expr} {vs : List Value} :
    evaluateAll scope es = .ok vs ↔ List.Forall₂ (fun e v => e.evaluate scope = .ok v) es vs := by
  rw [evaluateAll_eq_mapM, mapM_eq_ok]

theorem mem_allReadings {es : List Expr} {r : Reading} : r ∈ allReadings es ↔ ∃ e ∈ es, r ∈ e.readings := by
  induction es with
  | nil => simp [allReadings]
  | cons e es ih => simp [allReadings, ih]

theorem exists_null_iff {es : List Expr} {vs : List Value}
    (h : List.Forall₂ (fun e v => e.evaluate scope = .ok v) es vs) :
    (∃ v ∈ vs, v.isNull = true) ↔ ∃ e ∈ es, e.IsNullIn scope := by
  induction h with
  | nil => simp
  | @cons e v es vs hv _ ih =>
    simp only [List.mem_cons, exists_eq_or_imp, ih]
    refine or_congr_left ?_
    simp [Expr.IsNullIn, hv]

theorem requiredArgs_evaluate {function : String} {es : List Expr} {vs : List Value}
    (h : List.Forall₂ (fun e v => e.evaluate scope = .ok v) es vs) :
    List.Forall₂ (fun e v => e.evaluate scope = .ok v) (requiredArgs function es) (requiredArgs function vs) := by
  unfold requiredArgs
  split
  · exact List.forall₂_take 2 h
  · exact h

namespace Expr

/-- One step: an expression is NULL because of an operand, or because it has no value on its operands. -/
theorem isNull_step {e : Expr} {v : Value} (hstrict : e.Strict) (hv : e.evaluate scope = .ok v) :
    v.isNull = true ↔ (∃ operand ∈ e.requiredOperands, operand.IsNullIn scope) ∨ e.NullSource scope := by
  cases e with
  | column | literal => simp [requiredOperands, NullSource, IsNullIn, hv]
  | call function args =>
    rw [evaluate] at hv
    obtain ⟨vs, hvs, hcall⟩ := bind_eq_ok.1 hv
    rw [isNull_callFunction (hstrict function (by simp [readings])) hcall, requiredOperands,
      ← exists_null_iff (requiredArgs_evaluate (evaluateAll_eq_ok.1 hvs))]
    by_cases hnull : ∃ arg ∈ requiredArgs function vs, arg.isNull = true
    · exact iff_of_true (.inl hnull) (.inl hnull)
    · have hpresent : ∀ arg ∈ requiredArgs function vs, arg.isNull = false := by simpa using hnull
      simp only [hnull, NullSource, hvs, false_or, Except.ok.injEq, exists_eq_left']
      exact (and_iff_right hpresent).symm
  | binary op left right =>
    rw [evaluate] at hv
    obtain ⟨u, hu, hv⟩ := bind_eq_ok.1 hv
    obtain ⟨w, hw, hv⟩ := bind_eq_ok.1 hv
    rw [Arithmetic.isNull_apply hv]
    simp [requiredOperands, NullSource, IsNullIn, hu, hw, or_assoc]

theorem Strict.operand {e operand : Expr} (h : e.Strict) (hoperand : operand ∈ e.operands) : operand.Strict := by
  intro function hfunction
  refine h function ?_
  cases e with
  | column | literal => cases hoperand
  | call _ args => exact List.mem_cons_of_mem _ (mem_allReadings.2 ⟨operand, hoperand, hfunction⟩)
  | binary op left right =>
    rw [readings, List.mem_append]
    rcases List.mem_pair.1 hoperand with rfl | rfl
    · exact .inl hfunction
    · exact .inr hfunction

theorem evaluate_operand {e operand : Expr} {v : Value} (hv : e.evaluate scope = .ok v)
    (hoperand : operand ∈ e.operands) : ∃ w, operand.evaluate scope = .ok w := by
  cases e with
  | column | literal => cases hoperand
  | call function args =>
    rw [evaluate] at hv
    obtain ⟨vs, hvs, -⟩ := bind_eq_ok.1 hv
    rw [evaluateAll_eq_mapM] at hvs
    obtain ⟨w, -, hw⟩ := exists_mem_of_mapM hvs hoperand
    exact ⟨w, hw⟩
  | binary op left right =>
    rw [evaluate] at hv
    obtain ⟨u, hu, hv⟩ := bind_eq_ok.1 hv
    obtain ⟨w, hw, -⟩ := bind_eq_ok.1 hv
    rcases List.mem_pair.1 hoperand with rfl | rfl
    · exact ⟨u, hu⟩
    · exact ⟨w, hw⟩

theorem mem_operands_of_required {e operand : Expr} (h : operand ∈ e.requiredOperands) : operand ∈ e.operands := by
  cases e with
  | column | literal | binary => exact h
  | call function args =>
    rw [requiredOperands, requiredArgs] at h
    split at h
    · exact List.mem_of_mem_take h
    · exact h

theorem sizeOf_operand {e operand : Expr} (h : operand ∈ e.operands) : sizeOf operand < sizeOf e := by
  cases e with
  | column | literal => cases h
  | call function args =>
    have hargs : sizeOf operand < sizeOf args := List.sizeOf_lt_of_mem h
    rw [call.sizeOf_spec]
    omega
  | binary op left right =>
    rw [binary.sizeOf_spec]
    rcases List.mem_pair.1 h with rfl | rfl <;> omega

/-- An expression is NULL exactly if NULL begins somewhere in it, outside of the lengths of SUBSTRING. -/
theorem isNull_iff_source {e : Expr} {v : Value} (hstrict : e.Strict) (hv : e.evaluate scope = .ok v) :
    v.isNull = true ↔ ∃ part, e.RequiredPart part ∧ part.NullSource scope := by
  constructor
  · intro hnull
    rcases (isNull_step hstrict hv).1 hnull with ⟨operand, hoperand, w, hw, hwnull⟩ | hsource
    · have hmem := mem_operands_of_required hoperand
      -- NULL comes from an operand, which is smaller
      have hsmaller := sizeOf_operand hmem
      obtain ⟨part, hpart, hsource⟩ := (isNull_iff_source (hstrict.operand hmem) hw).1 hwnull
      exact ⟨part, .head hoperand hpart, hsource⟩
    · exact ⟨e, .refl, hsource⟩
  · rintro ⟨part, hpart, hsource⟩
    induction hpart using Relation.ReflTransGen.head_induction_on generalizing v with
    | refl => exact (isNull_step hstrict hv).2 (.inr hsource)
    | @head e operand hoperand _ ih =>
      have hmem := mem_operands_of_required hoperand
      obtain ⟨w, hw⟩ := evaluate_operand hv hmem
      exact (isNull_step hstrict hv).2 (.inl ⟨operand, hoperand, w, hw, ih (hstrict.operand hmem) hw⟩)
termination_by sizeOf e

/-- An expression whose functions are strict is NULL if a leaf is, unless the leaf stands in the length of a SUBSTRING.
With the leaves in lengths it is so exactly if, where there is such a leaf, NULL begins somewhere else as well. -/
theorem isNull_of_leaf_iff {e : Expr} {v : Value} (hstrict : e.Strict) (hv : e.evaluate scope = .ok v) :
    (∀ leaf, e.RequiredPart leaf → leaf.IsLeaf → leaf.IsNullIn scope → v.isNull = true) ∧
      ((∀ leaf, e.Part leaf → leaf.IsLeaf → leaf.IsNullIn scope → v.isNull = true) ↔
        ((∃ leaf, e.Part leaf ∧ leaf.IsLeaf ∧ leaf.IsNullIn scope) →
          ∃ part, e.RequiredPart part ∧ part.NullSource scope)) := by
  rw [← isNull_iff_source hstrict hv]
  constructor
  · intro leaf hpart hleaf hnull
    refine (isNull_iff_source hstrict hv).2 ⟨leaf, hpart, ?_⟩
    cases leaf with
    | column | literal => exact hnull
    | call | binary => exact hleaf.elim
  · constructor
    · rintro hall ⟨leaf, hpart, hleaf, hnull⟩
      exact hall leaf hpart hleaf hnull
    · exact fun h leaf hpart hleaf hnull => h ⟨leaf, hpart, hleaf, hnull⟩

/-- A name that is shortened to a length. -/
def shortened : Expr :=
  .call "CONCAT" [.column none "name", .call "SUBSTRING" [.literal (.string "label"), .literal (.number "1"),
    .column none "length"]]

/-- A name is missing and so is a length. -/
def blankScope : Scope :=
  .ofValues [("name", .null .varchar), ("length", .null .int)] ⟨⟨2024, 5, 17⟩, ⟨9, 30, 0⟩⟩

theorem shortened_null : shortened.Strict ∧ shortened.evaluate blankScope = .ok (.null .varchar) ∧
    (∀ leaf, shortened.RequiredPart leaf → leaf.IsLeaf → leaf.IsNullIn blankScope →
      (Value.null .varchar).isNull = true) ∧
    ((∀ leaf, shortened.Part leaf → leaf.IsLeaf → leaf.IsNullIn blankScope → (Value.null .varchar).isNull = true) ↔
      ((∃ leaf, shortened.Part leaf ∧ leaf.IsLeaf ∧ leaf.IsNullIn blankScope) →
        ∃ part, shortened.RequiredPart part ∧ part.NullSource blankScope)) := by
  have hstrict : shortened.Strict := by
    simp [Strict, shortened, readings, allReadings, strictFunctions]
  have hvalue : shortened.evaluate blankScope = .ok (.null .varchar) := by
    with_unfolding_all rfl
  exact ⟨hstrict, hvalue, isNull_of_leaf_iff hstrict hvalue⟩

/-- A label with a length that is NULL. -/
def unmeasured : Expr :=
  .call "SUBSTRING" [.literal (.string "label"), .literal (.number "1"), .literal .null]

/-- SUBSTRING takes a length that is NULL for one that is left out, and gives the whole text. -/
theorem unmeasured_label :
    Condition.compile "SUBSTRING('label', 1, NULL) IS NULL" = .ok (.isNull false unmeasured) ∧
      unmeasured.Strict ∧ unmeasured.evaluate blankScope = .ok (.ofString "label") ∧
      (Value.ofString "label").isNull = false ∧
      ∃ leaf, unmeasured.Part leaf ∧ leaf.IsLeaf ∧ leaf.IsNullIn blankScope := by
  refine ⟨by with_unfolding_all rfl, ?_, by with_unfolding_all rfl, rfl, .literal .null, ?_, trivial, .null .varchar,
    ?_⟩
  · simp [Strict, unmeasured, readings, allReadings, strictFunctions]
  · exact .single (by simp [unmeasured, operands])
  · exact ⟨by rw [evaluate]; rfl, rfl⟩

end Expr

end Relational
