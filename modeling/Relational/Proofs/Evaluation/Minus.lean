import Relational.Proofs.Condition.Operand
import Relational.Proofs.Equality
import Relational.Proofs.Evaluation.Faults

/-!
# The minus sign

A minus sign before an expression is read as the difference of zero and the expression, and before a number it becomes
part of the number. The number then has the value of the difference, as long as it has one minus sign: with two the
text is no number any more. Whether two values agree is asked as a condition asks it, and an infinite value does not
agree with itself.
-/

namespace Relational

open Text Decimal Condition

variable {scope : Scope} {text : String} {e : Expr} {v w u : Value} {p q : Number}

/-! ## Values that are equal -/

/-- Both values are NULL, or a condition finds them equal. -/
def Value.Agrees (v w : Value) : Prop :=
  v.isNull = true ∧ w.isNull = true ∨ Comparison.eq.apply v w = .ok (some true)

theorem Value.isNull_of_number (h : v.number? = some p) : v.isNull = false := by
  rw [isNull, payload_of_number h]
  rfl

theorem apply_numbers (op : Comparison) (hv : v.number? = some p) (hw : w.number? = some q) :
    op.apply v w = (Value.payloadOrder p.payload q.payload).map fun order => some (op.holds order) := by
  rw [Comparison.apply, Value.isNull_of_number hv, Value.isNull_of_number hw, alignedOrder, align_numbers hv hw]
  dsimp only
  rw [Value.order, Value.payload_of_number hv, Value.payload_of_number hw]
  rfl

theorem holds_eq_iff (order : Ordering) : Comparison.eq.holds order = true ↔ order = .eq := by
  cases order <;> decide

theorem agrees_integers {m n : Int} (hv : v.number? = some (.integer m)) (hw : w.number? = some (.integer n)) :
    v.Agrees w ↔ m = n := by
  rw [Value.Agrees, apply_numbers .eq hv hw, Value.isNull_of_number hv, Number.payload, Number.payload,
    Value.payloadOrder]
  simp [Except.map, holds_eq_iff]

theorem agrees_reals {x y : Float} (hv : v.number? = some (.real x)) (hw : w.number? = some (.real y)) :
    v.Agrees w ↔ Value.realOrder x y = .eq := by
  rw [Value.Agrees, apply_numbers .eq hv hw, Value.isNull_of_number hv, Number.payload, Number.payload,
    Value.payloadOrder]
  simp [Except.map, holds_eq_iff]

theorem notFinite_real {x : Float} (hv : v.number? = some (.real x)) :
    v.NotFinite ↔ Binary.ofFloat? x = none := by
  rw [Value.NotFinite, Value.payload_of_number hv, Number.payload]
  constructor
  · rintro ⟨y, ⟨⟩, hy⟩
    exact hy
  · exact fun hx => ⟨x, rfl, hx⟩

theorem notFinite_integer {n : Int} (hv : v.number? = some (.integer n)) : ¬ v.NotFinite := by
  rintro ⟨y, hy, -⟩
  rw [Value.payload_of_number hv] at hy
  cases hy

/-- A real number is equal to itself, unless it is infinite or NaN. -/
theorem realOrder_self (x : Float) : Value.realOrder x x = .eq ↔ Binary.ofFloat? x ≠ none := by
  unfold Value.realOrder
  rcases float_sub_self x with ⟨hzero, hfinite⟩ | ⟨hnan, hinfinite⟩
  · rw [hzero]
    exact iff_of_true (by decide) hfinite
  · rw [hnan]
    exact iff_of_false (by decide) (not_not.2 hinfinite)

/-- The signs of two zeros do not matter. -/
theorem realOrder_neg (x : Float) :
    Value.realOrder (-x) (Float.ofBits 0 - x) = .eq ↔ Binary.ofFloat? (Float.ofBits 0 - x) ≠ none := by
  rcases float_zero_sub x with hsame | ⟨hzero, hneg⟩
  · rw [hsame]
    exact realOrder_self (-x)
  · rw [hzero]
    rcases hneg with hneg | hneg
    · rw [hneg]
      exact realOrder_self _
    · rw [hneg]
      exact iff_of_true (by decide) (by decide)

/-- A value that is NULL or a number agrees with itself unless it is infinite or NaN. -/
theorem agrees_self (hv : v.isNull = true ∨ ∃ p, v.number? = some p) : v.Agrees v ↔ ¬ v.NotFinite := by
  rcases hv with hnull | ⟨p, hp⟩
  · refine iff_of_true (.inl ⟨hnull, hnull⟩) ?_
    rintro ⟨x, hx, -⟩
    rw [Value.isNull, hx] at hnull
    cases hnull
  · cases p with
    | integer n => exact iff_of_true ((agrees_integers hp hp).2 rfl) (notFinite_integer hp)
    | real x => rw [agrees_reals hp hp, realOrder_self, notFinite_real hp]

/-! ## Zero minus a value -/

theorem number_ofInteger (n : Int) : (Value.ofInteger n).number? = some (.integer n) := by
  unfold Value.ofInteger
  split <;> rfl

theorem number_of_store {type : DataType} (h : Value.store type (some p.payload) = .ok w) :
    ∃ q, w.number? = some q := by
  unfold Value.store at h
  dsimp only at h
  split at h
  · cases h
    cases p <;> exact ⟨_, rfl⟩
  · cases p with
    | real x => cases h
    | integer n =>
      dsimp only [Number.payload] at h
      split at h
      · split at h
        · cases h
          exact ⟨_, rfl⟩
        · cases h
      · cases h

/-- A difference is a number or NULL. -/
theorem number_of_sub (h : v.sub u = .ok w) : w.isNull = true ∨ ∃ p, w.number? = some p := by
  unfold Value.sub Value.numeric at h
  dsimp only at h
  split at h
  case h_1 m n _ _ => exact .inr (number_of_store (p := .integer (m - n)) h)
  case h_2 =>
    obtain ⟨x, -, h⟩ := bind_eq_ok.1 h
    obtain ⟨y, -, h⟩ := bind_eq_ok.1 h
    exact .inr (number_of_store (p := .real (x - y)) h)
  case h_3 =>
    cases h
    exact .inl rfl

theorem evaluate_zero : zero.evaluate scope = .ok (Value.ofInteger 0) := by
  rfl

theorem evaluate_zeroMinus : (Expr.binary .sub zero e).evaluate scope = .ok w ↔
    ∃ u, e.evaluate scope = .ok u ∧ Arithmetic.sub.apply (.ofInteger 0) u = .ok w := by
  rw [Expr.evaluate, evaluate_zero, ok_bind, bind_eq_ok]

theorem sub_numbers (hv : v.number? = some p) (hu : u.number? = some q) : Arithmetic.sub.apply v u = v.sub u := by
  have haligned : alignPresent v u = (v, u) := by
    rw [alignPresent, Value.isNull_of_number hv, Value.isNull_of_number hu, align_numbers hv hu]
    rfl
  rw [Arithmetic.apply, haligned]

theorem zeroMinus_integer {n : Int} (hu : u.number? = some (.integer n))
    (h : Arithmetic.sub.apply (.ofInteger 0) u = .ok w) : w.number? = some (.integer (-n)) := by
  have hkind : ((Value.ofInteger 0).type.common u.type).kind = .integer :=
    Value.kind_common rfl (Value.kind_of_integer (Value.payload_of_number hu))
  rw [sub_numbers (number_ofInteger 0) hu, Value.sub, Value.numeric, number_ofInteger, hu] at h
  dsimp only at h
  rw [Value.store] at h
  dsimp only at h
  rw [dif_pos (by rw [hkind]; rfl)] at h
  cases h
  rw [← Int.zero_sub]
  rfl

theorem zeroMinus_real (x : Float) :
    Arithmetic.sub.apply (.ofInteger 0) (.ofReal x) = .ok (.ofReal (Float.ofBits 0 - x)) := by
  rfl

/-! ## Numbers with a minus sign -/

theorem isRealNumeral_minus (s : String) : isRealNumeral ("-" ++ s) = isRealNumeral s := by
  have htext : ("-" ++ s).toList = '-' :: s.toList := String.toList_append
  rw [isRealNumeral, htext]
  rfl

/-- A number without a sign: with a minus sign before it the number has the value of the difference. -/
theorem agrees_numeral {s : String} (hs : IsNumeral s.toList)
    (hw : (Expr.binary .sub zero (.literal (.number s))).evaluate scope = .ok w) :
    (∃ v, (Expr.literal (.number ("-" ++ s))).evaluate scope = .ok v ∧ v.Agrees w) ↔ ¬ w.NotFinite := by
  obtain ⟨u, hu, hdifference⟩ := evaluate_zeroMinus.1 hw
  rw [Expr.evaluate, Literal.evaluate, numberValue] at hu
  simp only [Expr.evaluate, Literal.evaluate, numberValue, isRealNumeral_minus]
  cases hreal : isRealNumeral s with
  | false =>
    obtain ⟨n, hread, hminus⟩ := readInteger?_minus hs hreal
    rw [hreal, if_neg Bool.false_ne_true, hread] at hu
    cases hu
    have hnumber := zeroMinus_integer (number_ofInteger n) hdifference
    rw [if_neg Bool.false_ne_true, hminus]
    exact iff_of_true ⟨_, rfl, (agrees_integers (number_ofInteger _) hnumber).2 rfl⟩ (notFinite_integer hnumber)
  | true =>
    obtain ⟨x, hread, hminus⟩ := readFloat?_minus hs
    rw [hreal, if_pos rfl, hread] at hu
    cases hu
    rw [zeroMinus_real] at hdifference
    cases hdifference
    rw [if_pos rfl, hminus]
    have hagrees : (Value.ofReal (-x)).Agrees (.ofReal (Float.ofBits 0 - x)) ↔
        ¬ (Value.ofReal (Float.ofBits 0 - x)).NotFinite := by
      rw [agrees_reals rfl rfl, realOrder_neg, notFinite_real rfl]
    simpa using hagrees

/-! ## Two minus signs -/

theorem head_natDigits_ne (n : Nat) (rest : List Char) : natDigits n ≠ '-' :: rest := by
  intro heq
  have hdigit : '-'.isDigit = true := isDigit_of_mem_natDigits (n := n) (by rw [heq]; exact .head _)
  revert hdigit
  decide

theorem head_placePoint (c : Nat) (k : Int) (rest : List Char) : placePoint c k ≠ '-' :: rest := by
  obtain ⟨d, digits, hdigits⟩ := List.exists_cons_of_ne_nil (natDigits_ne_nil c)
  have hd : d ≠ '-' := by
    rintro rfl
    exact head_natDigits_ne c digits hdigits
  intro heq
  unfold placePoint at heq
  rw [hdigits] at heq
  dsimp only at heq
  split at heq
  · cases digits with
    | nil => exact hd (List.cons.inj heq).1
    | cons d' digits => exact hd (List.cons.inj heq).1
  · split at heq
    · cases heq
    · rename_i hpoint
      split at heq
      · exact hd (List.cons.inj heq).1
      · have hpos := Int.pos_iff_toNat_pos.1 (Int.not_le.1 hpoint)
        obtain ⟨n, hn⟩ := Nat.exists_eq_succ_of_ne_zero (Nat.ne_of_gt hpos)
        rw [hn, List.take_succ_cons] at heq
        exact hd (List.cons.inj heq).1

/-- No number is written with two minus signs. -/
theorem payloadText_startsTwice (p : Number) : ¬ StartsTwice (Value.payloadText p.payload).toList := by
  have hinteger : ∀ n : Int, ¬ StartsTwice (intText n).toList := by
    rintro n ⟨rest, hrest⟩
    rw [toList_intText] at hrest
    split at hrest
    · exact head_natDigits_ne _ _ (List.cons.inj hrest).2
    · exact head_natDigits_ne _ _ hrest
  have hreal : ∀ x : Float, ¬ StartsTwice (realText x).toList := by
    rintro x ⟨rest, hrest⟩
    unfold realText at hrest
    split at hrest
    · dsimp only at hrest
      rw [String.toList_ofList] at hrest
      split at hrest
      · exact head_placePoint _ _ _ (List.cons.inj hrest).2
      · exact head_placePoint _ _ _ hrest
    · split at hrest
      · cases hrest
      · split at hrest
        · cases hrest
        · cases hrest
  cases p with
  | integer n => exact hinteger n
  | real x =>
    show ¬ StartsTwice (Value.realCell x).toList
    unfold Value.realCell
    split
    · split
      · exact hinteger _
      · exact hreal x
    · exact hreal x

/-- A text that starts with two minus signs agrees with no number. -/
theorem agrees_startsTwice {s : String} (hs : StartsTwice s.toList) (hw : w.isNull = true ∨ ∃ q, w.number? = some q) :
    ¬ (Value.ofString s).Agrees w := by
  rintro (⟨hnull, -⟩ | hequal)
  · cases hnull
  rcases hw with hnull | ⟨q, hq⟩
  · rw [Comparison.apply, hnull, Bool.or_true, if_pos rfl] at hequal
    cases hequal
  · have hpayload := Value.payload_of_number hq
    -- the text does not read as a number, so the two are compared as texts
    have hunread : (Value.ofText w.type s).isNull = true := by
      have hkind := w.fits _ hpayload
      unfold Value.ofText
      split
      · rfl
      · rw [Value.isNull, Value.ofData?, Option.isNone_map, ← hkind]
        cases q with
        | integer n => rw [Number.payload, Payload.kind, Value.readData?, readInteger?_startsTwice hs.strip]; rfl
        | real x => rw [Number.payload, Payload.kind, Value.readData?, readFloat?, readReal?_startsTwice hs.strip]; rfl
    have haligned : align (.ofString s) w = (.ofString s, w) := by
      unfold align Value.kind?
      rw [hpayload]
      cases q <;> simp [Number.payload, Value.ofString, Value.present, Payload.kind, hunread]
    have horder : (Value.ofString s).order w = .ok (Value.textOrder s (Value.payloadText q.payload)) := by
      rw [Value.order, hpayload]
      cases q <;> rfl
    have hpresent : ((Value.ofString s).isNull || w.isNull) = false := Value.isNull_of_number hq
    rw [Comparison.apply, hpresent, if_neg Bool.false_ne_true, alignedOrder, haligned] at hequal
    dsimp only at hequal
    rw [horder] at hequal
    simp only [Except.map, Except.ok.injEq, Option.some.injEq, holds_eq_iff, Value.textOrder,
      Std.LawfulEqCmp.compare_eq_iff_eq] at hequal
    rw [hequal] at hs
    exact payloadText_startsTwice q hs

/-- A number with a sign: with another minus sign before it the text is no number, and has no value if it has neither
a point nor an exponent. -/
theorem agrees_signed {s : String} (hs : StartsTwice s.toList) (hw : w.isNull = true ∨ ∃ q, w.number? = some q) :
    ¬ ∃ v, (Expr.literal (.number s)).evaluate scope = .ok v ∧ v.Agrees w := by
  rintro ⟨v, hv, hagrees⟩
  rw [Expr.evaluate, Literal.evaluate, numberValue, readInteger?_startsTwice hs, readFloat?, readReal?_startsTwice hs]
    at hv
  split at hv
  · cases hv
    exact agrees_startsTwice hs hw hagrees
  · cases hv

/-! ## The minus sign -/

/-- The minus sign before an expression means its difference from zero, wherever that has a finite value or is NULL,
unless the expression is a number that has a minus sign already. -/
theorem minus_agrees_iff (h : Denotes text e) :
    Denotes ("-(" ++ text ++ ")") (negate e) ∧ Denotes ("0 - (" ++ text ++ ")") (.binary .sub zero e) ∧
      ∀ scope w, (Expr.binary .sub zero e).evaluate scope = .ok w →
        ((∃ v, (negate e).evaluate scope = .ok v ∧ v.Agrees w) ↔
          (∀ rest, e ≠ .literal (.number ("-" ++ rest))) ∧ ¬ w.NotFinite) := by
  refine ⟨h.minus, h.zeroMinus, fun scope w hw => ?_⟩
  have hnumber : w.isNull = true ∨ ∃ p, w.number? = some p := by
    obtain ⟨u, -, hdifference⟩ := evaluate_zeroMinus.1 hw
    exact number_of_sub hdifference
  by_cases hliteral : ∃ s, e = .literal (.number s)
  · obtain ⟨s, rfl⟩ := hliteral
    have hsigned : IsNumeral s.toList ∨ ∃ rest, s = "-" ++ rest := h.bracketed.1
    rcases hsigned with hs | ⟨rest, rfl⟩
    · have hplain : ∀ rest, Expr.literal (.number s) ≠ .literal (.number ("-" ++ rest)) := by
        rintro rest heq
        cases heq
        obtain ⟨d, digits, hcons, hdigit⟩ := hs.exists_cons
        have hminus : ("-" ++ rest).toList = '-' :: rest.toList := String.toList_append
        rw [hminus] at hcons
        rw [← (List.cons.inj hcons).1] at hdigit
        revert hdigit
        decide
      rw [negate, agrees_numeral hs hw]
      exact (and_iff_right hplain).symm
    · have htwice : StartsTwice ("-" ++ ("-" ++ rest)).toList := ⟨rest.toList, by simp [String.toList_append]⟩
      exact iff_of_false (agrees_signed htwice hnumber) fun hplain => hplain.1 rest rfl
  · have hnegate : negate e = .binary .sub zero e := by
      unfold negate
      split
      · exact absurd ⟨_, rfl⟩ hliteral
      · rfl
    have hplain : ∀ rest, e ≠ .literal (.number ("-" ++ rest)) := fun rest heq => hliteral ⟨_, heq⟩
    rw [hnegate, and_iff_right hplain, hw, ← agrees_self hnumber]
    simp

/-- A row with a price. -/
def pricedScope : Scope :=
  .ofValues [("price", .ofInteger 3)] ⟨⟨2024, 5, 17⟩, ⟨9, 30, 0⟩⟩

/-- The minus sign of a column is taken off by another one. -/
theorem minus_minus_price : ∃ e, Denotes "-(price)" e ∧ Denotes "-(-(price))" (negate e) ∧
    (Expr.binary .sub zero e).evaluate pricedScope = .ok (.ofInteger 3) ∧
      ∃ v, (negate e).evaluate pricedScope = .ok v ∧ v.Agrees (.ofInteger 3) := by
  have hreads : Denotes "-(price)" (.binary .sub zero (.column none "price")) := by
    with_unfolding_all rfl
  have hvalue : (Expr.binary .sub zero (.binary .sub zero (.column none "price"))).evaluate pricedScope =
      .ok (.ofInteger 3) := by
    with_unfolding_all rfl
  obtain ⟨hminus, -, hagrees⟩ := minus_agrees_iff hreads
  exact ⟨_, hreads, hminus, hvalue, (hagrees pricedScope _ hvalue).2 ⟨nofun, notFinite_integer (number_ofInteger 3)⟩⟩

/-- The minus sign of a number is not taken off by another one. -/
theorem minus_minus_five : Denotes "-5" (.literal (.number "-5")) ∧ Denotes "-(-5)" (.literal (.number "--5")) ∧
    Denotes "0 - (-5)" (.binary .sub zero (.literal (.number "-5"))) ∧
    (Expr.binary .sub zero (.literal (.number "-5"))).evaluate pricedScope = .ok (.ofInteger 5) ∧
    (Expr.literal (.number "--5")).evaluate pricedScope = fail (.value (.integer "--5")) := by
  refine ⟨?_, ?_, ?_, ?_, ?_⟩
  all_goals with_unfolding_all rfl

end Relational
