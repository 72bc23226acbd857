import Relational.Condition.Parser
import Relational.Evaluation
import Relational.Proofs.Failure

/-!
# Conditions with the same truth

A condition can be written in other ways that are as true, as false, as unknown, and fail on the same rows for the same
cause. NOT can be pushed down to the predicates. IN can be spelled out as equalities, which are evaluated in the order
of the items until one is true, as IN does it.
-/

namespace Relational

variable {scope : Scope}

/-! ## Truth -/

/-- Two signs make one. -/
theorem signed_signed (a b : Bool) (t : Truth) : signed a (signed b t) = signed (a != b) t := by
  cases a <;> cases b <;> rcases t with _ | _ | _ <;> rfl

theorem map_signed_false (x : Except Failure Truth) : x.map (signed false) = x := by
  cases x <;> rfl

/-! ## Conditions without NOT -/

/-- The operator that holds exactly of the orders of which the other does not. -/
def Comparison.complement : Comparison → Comparison
  | .eq => .ne
  | .ne => .eq
  | .lt => .ge
  | .gt => .le
  | .le => .gt
  | .ge => .lt

/-- The other connective. -/
def Connective.dual : Connective → Connective
  | .and => .or
  | .or => .and

namespace Condition

/-- The condition, or the opposite of it if `negated`, with every NOT pushed down to the predicates. -/
def pushNot (negated : Bool) : Condition → Condition
  | .compare op left right => .compare (if negated then op.complement else op) left right
  | .logic op left right =>
    .logic (if negated then op.dual else op) (left.pushNot negated) (right.pushNot negated)
  | .not operand => operand.pushNot !negated
  | .isNull negated' operand => .isNull (negated != negated') operand
  | .inList negated' operand items => .inList (negated != negated') operand items
  | .like negated' operand pattern => .like (negated != negated') operand pattern

/-- The condition with every NOT pushed down to the predicates. -/
def normalForm (c : Condition) : Condition :=
  c.pushNot false

/-- No NOT stands in the condition, but as part of a predicate. -/
def NotFree : Condition → Prop
  | .logic _ left right => left.NotFree ∧ right.NotFree
  | .not _ => False
  | .compare .. | .isNull .. | .inList .. | .like .. => True

theorem notFree_pushNot (negated : Bool) (c : Condition) : (c.pushNot negated).NotFree := by
  induction c generalizing negated with
  | logic op left right ihleft ihright => exact ⟨ihleft negated, ihright negated⟩
  | not operand ih => exact ih !negated
  | compare | isNull | inList | like => trivial

end Condition

theorem Comparison.holds_complement (op : Comparison) (order : Ordering) :
    op.complement.holds order = !op.holds order := by
  cases op <;> cases order <;> rfl

theorem Comparison.apply_complement (op : Comparison) (v w : Value) :
    op.complement.apply v w = (op.apply v w).map Truth.not := by
  unfold Comparison.apply
  split
  · rfl
  · cases alignedOrder v w with
    | error failure => rfl
    | ok order => simp [Except.map, holds_complement, Truth.not]

/-! ## Connectives -/

namespace Connective

/-- The truth value that decides, on whichever side it stands. -/
def decisive : Connective → Bool
  | .and => false
  | .or => true

/-- The truth of two joined conditions. -/
def join : Connective → Truth → Truth → Truth
  | .and => Truth.and
  | .or => Truth.or

/-- What the truth of the left side comes to with the right side, which is looked at if the left one does not
decide. -/
def next (op : Connective) (scope : Scope) (t : Truth) (right : Condition) : Except Failure Truth :=
  if t = some op.decisive then .ok t else (right.evaluate scope).map (op.join t)

/-- De Morgan's law. -/
theorem dual_join (op : Connective) (t u : Truth) : op.dual.join t.not u.not = (op.join t u).not := by
  cases op <;> rcases t with _ | _ | _ <;> rcases u with _ | _ | _ <;> rfl

theorem not_eq_decisive_iff (op : Connective) (t : Truth) :
    t.not = some op.dual.decisive ↔ t = some op.decisive := by
  cases op <;> rcases t with _ | _ | _ <;> decide

/-- The same side decides for the opposite of both sides. -/
theorem dual_next (op : Connective) (t : Truth) {right opposite : Condition}
    (h : opposite.evaluate scope = (right.evaluate scope).map Truth.not) :
    op.dual.next scope t.not opposite = (op.next scope t right).map Truth.not := by
  unfold next
  rw [h]
  simp only [not_eq_decisive_iff]
  split
  · rfl
  · cases right.evaluate scope with
    | error failure => rfl
    | ok u => exact congrArg Except.ok (op.dual_join t u)

end Connective

namespace Condition

theorem evaluate_logic (op : Connective) (left right : Condition) : (logic op left right).evaluate scope
    = left.evaluate scope >>= fun t => op.next scope t right := by
  cases op <;> rw [evaluate] <;> rfl

/-- With NOT pushed down to the predicates a condition has the truth that it has, or the opposite of it, and fails if it
fails. -/
theorem evaluate_pushNot (negated : Bool) (c : Condition) :
    (c.pushNot negated).evaluate scope = (c.evaluate scope).map (signed negated) := by
  induction c generalizing negated with
  | compare op left right =>
    rw [pushNot, evaluate, evaluate]
    cases left.evaluate scope with
    | error failure => rfl
    | ok v =>
      cases right.evaluate scope with
      | error failure => rfl
      | ok w =>
        simp only [ok_bind]
        cases negated with
        | true => exact op.apply_complement v w
        | false => exact (map_signed_false _).symm
  | logic op left right ihleft ihright =>
    rw [pushNot, evaluate_logic, evaluate_logic, ihleft]
    cases left.evaluate scope with
    | error failure => rfl
    | ok t =>
      cases negated with
      | true => exact op.dual_next t (ihright true)
      | false =>
        show op.next scope t (right.pushNot false) = (op.next scope t right).map (signed false)
        rw [map_signed_false, Connective.next, Connective.next, ihright, map_signed_false]
  | not operand ih =>
    rw [pushNot, evaluate, ih]
    cases operand.evaluate scope with
    | error failure => rfl
    | ok t => cases negated <;> rcases t with _ | _ | _ <;> rfl
  | isNull negated' operand =>
    rw [pushNot, evaluate, evaluate]
    cases operand.evaluate scope with
    | error failure => rfl
    | ok v => exact congrArg Except.ok (signed_signed negated negated' _).symm
  | inList negated' operand items =>
    rw [pushNot, evaluate, evaluate]
    cases operand.evaluate scope with
    | error failure => rfl
    | ok v =>
      simp only [ok_bind]
      split
      · cases negated <;> rfl
      · cases memberOf scope v false items with
        | error failure => rfl
        | ok t => exact congrArg Except.ok (signed_signed negated negated' t).symm
  | like negated' operand pattern =>
    rw [pushNot, evaluate, evaluate]
    cases operand.evaluate scope with
    | error failure => rfl
    | ok v =>
      cases pattern.evaluate scope with
      | error failure => rfl
      | ok w => exact congrArg Except.ok (signed_signed negated negated' _).symm

/-- The normal form of a condition is free of NOT, and in every scope it is as true, as false or as unknown as the
condition, and fails if the condition fails, with the same failure. -/
theorem evaluate_normalForm (c : Condition) :
    c.normalForm.NotFree ∧ ∀ scope : Scope, c.normalForm.evaluate scope = c.evaluate scope := by
  refine ⟨notFree_pushNot false c, fun scope => ?_⟩
  rw [normalForm, evaluate_pushNot, map_signed_false]

/-! ## Chains -/

/-- Conditions joined by a connective, as a text without parentheses joins them. -/
def chain (op : Connective) (first : Condition) (rest : List Condition) : Condition :=
  rest.foldl (logic op) first

theorem pushNot_chain (op : Connective) (first : Condition) (rest : List Condition) :
    (chain op first rest).pushNot true = chain op.dual (first.pushNot true) (rest.map (pushNot true)) := by
  induction rest generalizing first with
  | nil => rfl
  | cons c rest ih => exact ih (logic op first c)

/-- A chain is evaluated from left to right, until a condition decides. -/
theorem evaluate_chain (op : Connective) (first : Condition) (rest : List Condition) :
    (chain op first rest).evaluate scope = first.evaluate scope >>= fun t => rest.foldlM (op.next scope) t := by
  induction rest generalizing first with
  | nil =>
    show first.evaluate scope = _
    cases first.evaluate scope <;> rfl
  | cons c rest ih =>
    show (chain op (logic op first c) rest).evaluate scope = _
    rw [ih, evaluate_logic]
    cases first.evaluate scope with
    | error failure => rfl
    | ok t => simp only [ok_bind, List.foldlM_cons]

/-- After a condition that decides no other is looked at. -/
theorem foldlM_decisive (op : Connective) (rest : List Condition) :
    rest.foldlM (op.next scope) (some op.decisive) = .ok (some op.decisive) := by
  induction rest with
  | nil => rfl
  | cons c rest ih =>
    rw [List.foldlM_cons, Connective.next, if_pos rfl, ok_bind]
    exact ih

/-! ## Membership -/

variable {operand : Expr}

/-- A value is looked for among the items as a chain of equalities does it, from left to right. So far no item was
equal, and one was NULL if `sawNull`. -/
theorem memberOf_eq {v : Value} (hv : operand.evaluate scope = .ok v) (hpresent : v.isNull = false)
    (items : List Expr) (sawNull : Bool) : memberOf scope v sawNull items
      = (items.map (compare .eq operand)).foldlM (Connective.or.next scope) (if sawNull then none else some false) := by
  induction items generalizing sawNull with
  | nil => rfl
  | cons e items ih =>
    have hundecided : (if sawNull then none else some false : Truth) ≠ some Connective.or.decisive := by
      cases sawNull <;> decide
    rw [memberOf, List.map_cons, List.foldlM_cons, Connective.next, if_neg hundecided, evaluate, hv]
    simp only [ok_bind]
    cases e.evaluate scope with
    | error failure => rfl
    | ok w =>
      simp only [ok_bind, Comparison.apply, hpresent, Bool.false_or]
      cases hnull : w.isNull with
      | true =>
        -- an equality with NULL is unknown
        rw [if_pos rfl, if_pos rfl, ih true]
        cases sawNull <;> rfl
      | false =>
        rw [if_neg Bool.false_ne_true, if_neg Bool.false_ne_true]
        cases alignedOrder v w with
        | error failure => rfl
        | ok order =>
          cases order with
          | eq =>
            show Except.ok (some true) = (items.map (compare .eq operand)).foldlM (Connective.or.next scope) _
            cases sawNull <;> exact (foldlM_decisive .or _).symm
          | lt | gt =>
            show memberOf scope v sawNull items = _
            rw [ih sawNull]
            cases sawNull <;> rfl

theorem evaluate_compare_null {op : Comparison} {v : Value} (hv : operand.evaluate scope = .ok v)
    (hnull : v.isNull = true) {e : Expr} (he : ∃ w, e.evaluate scope = .ok w) :
    (compare op operand e).evaluate scope = .ok none := by
  obtain ⟨w, hw⟩ := he
  rw [evaluate, hv, hw, ok_bind, ok_bind, Comparison.apply, hnull, Bool.true_or, if_pos rfl]

/-- Equalities with NULL are unknown together, if the items can be evaluated. -/
theorem foldlM_unknown {v : Value} (hv : operand.evaluate scope = .ok v) (hnull : v.isNull = true)
    {items : List Expr} (hitems : ∀ e ∈ items, ∃ w, e.evaluate scope = .ok w) :
    (items.map (compare .eq operand)).foldlM (Connective.or.next scope) none = .ok none := by
  induction items with
  | nil => rfl
  | cons e items ih =>
    rw [List.forall_mem_cons] at hitems
    rw [List.map_cons, List.foldlM_cons, Connective.next, if_neg (by decide),
      evaluate_compare_null hv hnull hitems.1]
    exact ih hitems.2

theorem evaluate_member {e : Expr} {items : List Expr} (hoperand : ∃ v, operand.evaluate scope = .ok v)
    (hitems : ∀ item ∈ e :: items, ∃ w, item.evaluate scope = .ok w) :
    (inList false operand (e :: items)).evaluate scope
      = (chain .or (compare .eq operand e) (items.map (compare .eq operand))).evaluate scope := by
  obtain ⟨v, hv⟩ := hoperand
  have hchain : (chain .or (compare .eq operand e) (items.map (compare .eq operand))).evaluate scope
      = ((e :: items).map (compare .eq operand)).foldlM (Connective.or.next scope) (some false) := by
    rw [evaluate_chain, List.map_cons, List.foldlM_cons, Connective.next, if_neg (by decide)]
    cases (compare .eq operand e).evaluate scope with
    | error failure => rfl
    | ok t => rcases t with _ | _ | _ <;> rfl
  rw [hchain, evaluate, hv, ok_bind]
  cases hnull : v.isNull with
  | true =>
    rw [List.forall_mem_cons] at hitems
    rw [if_pos rfl, List.map_cons, List.foldlM_cons, Connective.next, if_neg (by decide),
      evaluate_compare_null hv hnull hitems.1]
    exact (foldlM_unknown hv hnull hitems.2).symm
  | false =>
    rw [if_neg Bool.false_ne_true, memberOf_eq hv hnull]
    exact map_signed_false _

/-- IN is a chain of equalities, and NOT IN a chain of inequalities, with the same truth. -/
theorem evaluate_inList {e : Expr} {items : List Expr} (hoperand : ∃ v, operand.evaluate scope = .ok v)
    (hitems : ∀ item ∈ e :: items, ∃ w, item.evaluate scope = .ok w) :
    (inList false operand (e :: items)).evaluate scope
        = (chain .or (compare .eq operand e) (items.map (compare .eq operand))).evaluate scope ∧
      (inList true operand (e :: items)).evaluate scope
        = (chain .and (compare .ne operand e) (items.map (compare .ne operand))).evaluate scope := by
  have hmember := evaluate_member hoperand hitems
  refine ⟨hmember, ?_⟩
  -- both sides are the opposite, with NOT pushed down
  have hlist : inList true operand (e :: items) = (inList false operand (e :: items)).pushNot true := rfl
  have hchain : chain .and (compare .ne operand e) (items.map (compare .ne operand))
      = (chain .or (compare .eq operand e) (items.map (compare .eq operand))).pushNot true := by
    rw [pushNot_chain, List.map_map]
    rfl
  rw [hlist, hchain, evaluate_pushNot, evaluate_pushNot, hmember]

/-- The number 7 beside the number 8. -/
def pairScope : Scope :=
  .ofValues [("a", .ofInteger 7), ("b", .ofInteger 8)] ⟨⟨2024, 5, 17⟩, ⟨9, 30, 0⟩⟩

/-- Among NULL, a text and a column the number 7 is looked for as the equalities do it. -/
theorem evaluate_inList_pair :
    let items : List Expr := [.literal (.string "8"), .column none "b"]
    compile "a IN (NULL, '8', b)" = .ok (inList false (.column none "a") (.literal .null :: items)) ∧
      compile "a = NULL OR a = '8' OR a = b" = .ok (chain .or (compare .eq (.column none "a") (.literal .null))
        (items.map (compare .eq (.column none "a")))) ∧
      (inList false (.column none "a") (.literal .null :: items)).evaluate pairScope
        = (chain .or (compare .eq (.column none "a") (.literal .null))
            (items.map (compare .eq (.column none "a")))).evaluate pairScope ∧
      (inList true (.column none "a") (.literal .null :: items)).evaluate pairScope
        = (chain .and (compare .ne (.column none "a") (.literal .null))
            (items.map (compare .ne (.column none "a")))).evaluate pairScope := by
  have ha : (Expr.column none "a").evaluate pairScope = .ok (.ofInteger 7) := by
    rw [Expr.evaluate]
    rfl
  have hb : (Expr.column none "b").evaluate pairScope = .ok (.ofInteger 8) := by
    rw [Expr.evaluate]
    rfl
  refine ⟨by with_unfolding_all rfl, by with_unfolding_all rfl, evaluate_inList ⟨_, ha⟩ ?_⟩
  rw [List.forall_mem_cons, List.forall_mem_cons, List.forall_mem_singleton]
  exact ⟨⟨.null .varchar, by rw [Expr.evaluate]; rfl⟩, ⟨.ofString "8", by rw [Expr.evaluate]; rfl⟩, _, hb⟩

end Condition

end Relational
