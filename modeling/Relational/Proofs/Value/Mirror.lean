import Relational.Evaluation

/-!
# Comparisons turned round

A comparison and the comparison with its sides turned round have the same truth, however the sides are brought to one
kind: alignment treats both sides alike, and the order of data is turned round with its sides. Only real numbers are
left out.
-/

namespace Relational

/-! ## The order of dates and times -/

theorem Date.order_swap (d e : Date) : e.order d = (d.order e).swap := by
  simp only [Date.order, Ordering.swap_then, ← Std.OrientedOrd.eq_swap]

theorem TimeOfDay.order_swap (t u : TimeOfDay) : u.order t = (t.order u).swap := by
  simp only [TimeOfDay.order, Ordering.swap_then, ← Std.OrientedOrd.eq_swap]

theorem Timestamp.order_swap (t u : Timestamp) : u.order t = (t.order u).swap := by
  simp only [Timestamp.order, Ordering.swap_then, ← Date.order_swap, ← TimeOfDay.order_swap]

namespace Value

/-! ## The order of data -/

theorem textOrder_swap (s t : String) : textOrder t s = (textOrder s t).swap := by
  simp only [textOrder, ← Std.OrientedOrd.eq_swap]

/-- Data of different kinds, neither a real number, is compared by its texts. -/
theorem payloadOrder_of_kind_ne {p q : Payload} (hkind : p.kind ≠ q.kind) (hp : p.kind ≠ .real) (hq : q.kind ≠ .real) :
    payloadOrder p q = .ok (textOrder (payloadText p) (payloadText q)) := by
  cases p <;> cases q <;> first
    | rfl
    | exact absurd rfl hkind
    | exact absurd rfl hp
    | exact absurd rfl hq

/-- Data other than real numbers can be compared, and its order is turned round with its sides. -/
theorem payloadOrder_swap {p q : Payload} (hp : p.kind ≠ .real) (hq : q.kind ≠ .real) :
    ∃ o, payloadOrder p q = .ok o ∧ payloadOrder q p = .ok o.swap := by
  by_cases hkind : p.kind = q.kind
  · cases p <;> cases q <;> simp only [Payload.kind, reduceCtorEq] at hkind
    case integer.integer m n => exact ⟨compare m n, rfl, congrArg _ Std.OrientedOrd.eq_swap⟩
    case real.real => exact absurd rfl hp
    case text.text s t => exact ⟨textOrder s t, rfl, congrArg _ (textOrder_swap s t)⟩
    case bool.bool a b => exact ⟨_, rfl, congrArg _ (textOrder_swap (payloadText (.bool a)) (payloadText (.bool b)))⟩
    case date.date d e => exact ⟨d.order e, rfl, congrArg _ (Date.order_swap d e)⟩
    case time.time t u => exact ⟨t.order u, rfl, congrArg _ (TimeOfDay.order_swap t u)⟩
    case timestamp.timestamp t u => exact ⟨t.order u, rfl, congrArg _ (Timestamp.order_swap t u)⟩
  · rw [payloadOrder_of_kind_ne hkind hp hq, payloadOrder_of_kind_ne (Ne.symm hkind) hq hp]
    exact ⟨_, rfl, congrArg _ (textOrder_swap _ _)⟩

variable {v w : Value}

/-- Values other than real numbers can be compared, and their order is turned round with its sides. -/
theorem order_swap (hv : v.kind? ≠ some .real) (hw : w.kind? ≠ some .real) :
    ∃ o, v.order w = .ok o ∧ w.order v = .ok o.swap := by
  unfold order
  cases hp : v.payload with
  | none =>
    cases hq : w.payload with
    | none => exact ⟨.eq, rfl, rfl⟩
    | some q => exact ⟨.lt, rfl, rfl⟩
  | some p =>
    cases hq : w.payload with
    | none => exact ⟨.gt, rfl, rfl⟩
    | some q =>
      rw [kind?, hp, Option.map_some, ne_eq, Option.some_inj] at hv
      rw [kind?, hq, Option.map_some, ne_eq, Option.some_inj] at hw
      exact payloadOrder_swap hv hw

end Value

/-! ## Alignment -/

section Alignment

/-- A text and a value of another kind, the text read as that kind, if it can be. -/
def textReading (v w : Value) : Option (Value × Value) :=
  match v.payload, w.payload with
  | some (.text _), some (.text _) => none
  | some (.text s), _ => if (Value.ofText w.type s).isNull then none else some (Value.ofText w.type s, w)
  | _, some (.text s) => if (Value.ofText v.type s).isNull then none else some (v, Value.ofText v.type s)
  | _, _ => none

/-- Two values of which one is a truth value and the other is not meet as truth values. -/
def meetTruths (v w : Value) : Value × Value :=
  if v.kind? != w.kind? && (v.kind? == some .bool || w.kind? == some .bool) then
    (.ofBool? v.toBool?, .ofBool? w.toBool?)
  else (v, w)

theorem align_eq (v w : Value) : align v w = (textReading v w).getD (meetTruths v w) := by
  unfold align
  dsimp only
  split
  · rename_i pair hpair
    have htext : textReading v w = some pair := hpair
    rw [htext]
    rfl
  · rename_i hnone
    have htext : textReading v w = none := hnone
    rw [htext]
    rfl

/-- The text is read beside a value of another kind, on whichever side it stands. -/
theorem textReading_swap (v w : Value) : textReading w v = (textReading v w).map Prod.swap := by
  unfold textReading
  cases v.payload with
  | none =>
    cases w.payload with
    | none => rfl
    | some q => cases q <;> dsimp only <;> first | rfl | (split <;> rfl)
  | some p =>
    cases w.payload with
    | none => cases p <;> dsimp only <;> first | rfl | (split <;> rfl)
    | some q => cases p <;> cases q <;> dsimp only <;> first | rfl | (split <;> rfl)

theorem meetTruths_swap (v w : Value) : meetTruths w v = (meetTruths v w).swap := by
  unfold meetTruths
  rw [bne_comm, Bool.or_comm]
  split <;> rfl

/-- Alignment treats both sides alike. -/
theorem align_swap (v w : Value) : align w v = (align v w).swap := by
  rw [align_eq, align_eq, textReading_swap, meetTruths_swap]
  cases textReading v w <;> rfl

end Alignment

/-! ## Comparisons -/

namespace Comparison

/-- The comparison that says the same with its sides turned round. -/
def mirror : Comparison → Comparison
  | .eq => .eq
  | .ne => .ne
  | .lt => .gt
  | .gt => .lt
  | .le => .ge
  | .ge => .le

theorem holds_mirror (op : Comparison) (o : Ordering) : op.mirror.holds o.swap = op.holds o := by
  cases op <;> cases o <;> rfl

/-- Neither side is a real number when it is compared: both are present, and alignment has made none of them one. -/
def Exact (v w : Value) : Prop :=
  v.isNull = false → w.isNull = false →
    (align v w).1.kind? ≠ some .real ∧ (align v w).2.kind? ≠ some .real

theorem apply_mirror {v w : Value} (h : Exact v w) (op : Comparison) :
    ∃ t, op.apply v w = .ok t ∧ op.mirror.apply w v = .ok t := by
  unfold Comparison.apply
  rw [Bool.or_comm w.isNull]
  split
  · exact ⟨none, rfl, rfl⟩
  · rename_i hpresent
    rw [Bool.not_eq_true, Bool.or_eq_false_iff] at hpresent
    obtain ⟨hleft, hright⟩ := h hpresent.1 hpresent.2
    obtain ⟨o, ho, hswap⟩ := Value.order_swap hleft hright
    refine ⟨some (op.holds o), ?_, ?_⟩
    · exact congrArg (Except.map _) ho
    · rw [alignedOrder, align_swap, ← holds_mirror op o]
      exact congrArg (Except.map _) hswap

end Comparison

/-- A condition that compares two expressions and the condition with the expressions turned round are both true, both
false or both unknown, unless they compare real numbers. -/
theorem Condition.evaluate_mirror {scope : Scope} {left right : Expr} {v w : Value}
    (hleft : left.evaluate scope = .ok v) (hright : right.evaluate scope = .ok w) (hexact : Comparison.Exact v w)
    (op : Comparison) :
    ∃ t, (Condition.compare op left right).evaluate scope = .ok t ∧
      (Condition.compare op.mirror right left).evaluate scope = .ok t := by
  obtain ⟨t, ht, hmirror⟩ := Comparison.apply_mirror hexact op
  refine ⟨t, ?_, ?_⟩
  · rw [Condition.evaluate, hleft, hright]
    exact ht
  · rw [Condition.evaluate, hleft, hright]
    exact hmirror

/-- A truth value beside a text that reads as none: one side is NULL after alignment. -/
theorem truth_beside_word_mirrored :
    ∃ t, (Condition.compare .lt (.literal (.bool true)) (.literal (.string "maybe"))).evaluate
        (.empty ⟨⟨2024, 2, 29⟩, ⟨12, 34, 56⟩⟩) = .ok t ∧
      (Condition.compare .gt (.literal (.string "maybe")) (.literal (.bool true))).evaluate
        (.empty ⟨⟨2024, 2, 29⟩, ⟨12, 34, 56⟩⟩) = .ok t :=
  Condition.evaluate_mirror (v := .ofBool? (some true)) (w := .ofString "maybe") rfl rfl
    (fun _ _ => by decide +kernel) .lt

end Relational
