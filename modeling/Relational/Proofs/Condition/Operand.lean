import Relational.Proofs.Condition.Numeral
import Relational.Proofs.Condition.Reading

/-!
# Expressions within expressions

An expression that can be the right side of a comparison can stand between brackets wherever an expression may stand,
and is read there as the same expression. What is read of it goes on top of the frames that wait for it and leaves these
as they are: only a connective would close the comparison, and then no comparison would be read. So a minus sign or a
difference can be put before every expression.
-/

namespace Relational.Condition

open Text

variable {t : Terminal} {text : String} {p q : Partial} {frames u : List Frame} {e left : Expr} {c : Condition}
  {op : Comparison}

/-! ## Connectives -/

/-- The frame waits for the right side of a connective. -/
def Frame.isConnective : Frame → Bool
  | .and _ => true
  | .or _ => true
  | _ => false

/-- The outermost frame waits for the right side of a connective. -/
def joins : List Frame → Bool
  | [] => false
  | [f] => f.isConnective
  | _ :: frames => joins frames

theorem joins_cons (f : Frame) (h : joins frames = true) : joins (f :: frames) = true := by
  cases frames with
  | nil => cases h
  | cons f' frames => exact h

/-- Any other frame is not the outermost one. -/
theorem joins_of_cons {f : Frame} (h : joins (f :: frames) = true) (hother : f.isConnective = false) :
    joins frames = true := by
  cases frames with
  | nil => exact absurd (hother.symm.trans h) Bool.false_ne_true
  | cons f' frames => exact h

theorem closeProduct_joins (e : Expr) (h : joins frames = true) : joins (closeProduct frames e).1 = true := by
  induction frames, e using closeProduct.induct with
  | case1 frames e ih =>
    rw [closeProduct]
    exact ih (joins_of_cons h rfl)
  | case2 op left frames e ih =>
    rw [closeProduct]
    exact ih (joins_of_cons h rfl)
  | case3 frames e hnegation hproduct =>
    rw [closeProduct]
    · exact h
    · exact hnegation
    · exact hproduct

theorem closeSum_joins (e : Expr) (h : joins frames = true) : joins (closeSum frames e).1 = true := by
  induction frames, e using closeSum.induct with
  | case1 frames e ih =>
    rw [closeSum]
    exact ih (joins_of_cons h rfl)
  | case2 op left frames e ih =>
    rw [closeSum]
    exact ih (joins_of_cons h rfl)
  | case3 op left frames e ih =>
    rw [closeSum]
    exact ih (joins_of_cons h rfl)
  | case4 frames e hnegation hproduct hsum =>
    rw [closeSum]
    · exact h
    · exact hnegation
    · exact hproduct
    · exact hsum

/-- A conjunction closes as one. -/
theorem closeAnd_joins (c : Condition) (h : joins frames = true) :
    (closeAnd frames c).1 = [] ∨ joins (closeAnd frames c).1 = true := by
  induction frames, c using closeAnd.induct with
  | case1 frames c ih =>
    rw [closeAnd]
    exact ih (joins_of_cons h rfl)
  | case2 left frames c ih =>
    rw [closeAnd]
    cases frames with
    | nil => exact .inl rfl
    | cons f frames => exact ih h
  | case3 frames c hnot hand =>
    rw [closeAnd]
    · exact .inr h
    · exact hnot
    · exact hand

/-- What is closed to the outermost frame is a connective. -/
theorem closeOr_joins (c : Condition) (h : joins frames = true) :
    (∃ op left right, closeOr frames c = ([], .logic op left right)) ∨ joins (closeOr frames c).1 = true := by
  induction frames, c using closeOr.induct with
  | case1 frames c ih =>
    rw [closeOr]
    exact ih (joins_of_cons h rfl)
  | case2 left frames c ih =>
    rw [closeOr]
    cases frames with
    | nil => exact .inl ⟨_, _, _, rfl⟩
    | cons f frames => exact ih h
  | case3 left frames c ih =>
    rw [closeOr]
    cases frames with
    | nil => exact .inl ⟨_, _, _, rfl⟩
    | cons f frames => exact ih h
  | case4 frames c hnot hand hor =>
    rw [closeOr]
    · exact .inr h
    · exact hnot
    · exact hand
    · exact hor

theorem readBegin_joins (h : readBegin frames t text = some q) (hjoins : joins frames = true) :
    joins q.frames = true := by
  unfold readBegin at h
  split at h
  case h_9 =>
    split at h
    · cases h
      exact joins_cons _ hjoins
    · cases h
  case h_10 => cases h
  case h_7 | h_8 =>
    cases h
    exact joins_cons _ hjoins
  all_goals
    cases h
    exact hjoins

theorem readConnective_joins (h : readConnective frames c t = some q) (hjoins : joins frames = true) :
    joins q.frames = true := by
  unfold readConnective at h
  split at h
  · cases h
    rcases closeAnd_joins c hjoins with hnone | hclosed
    · show joins (.and _ :: (closeAnd frames c).1) = true
      rw [hnone]
      rfl
    · exact joins_cons _ hclosed
  · cases h
    rcases closeOr_joins c hjoins with ⟨op, left, right, hnone⟩ | hclosed
    · show joins (.or _ :: (closeOr frames c).1) = true
      rw [hnone]
      rfl
    · exact joins_cons _ hclosed
  · split at h
    · rename_i frames' c' heq
      cases h
      rcases closeOr_joins c hjoins with ⟨op, left, right, hnone⟩ | hclosed
      · rw [hnone] at heq
        cases heq
      · rw [heq] at hclosed
        exact joins_of_cons hclosed rfl
    · cases h
  · cases h

theorem readPredicate_joins (h : readPredicate frames e t = some q) (hjoins : joins frames = true) :
    joins q.frames = true := by
  unfold readPredicate at h
  split at h
  · split at h
    · cases h
      exact joins_cons _ hjoins
    · split at h
      case h_1 =>
        cases h
        exact joins_cons _ hjoins
      case h_5 => cases h
      all_goals
        cases h
        exact hjoins
  · cases h

theorem readEnd_joins (h : readEnd frames e t = some q) (hjoins : joins frames = true) : joins q.frames = true := by
  unfold readEnd at h
  split at h
  · exact readConnective_joins h (joins_of_cons hjoins rfl)
  · exact readConnective_joins h (joins_of_cons hjoins rfl)
  · cases h

theorem readAfterSum_joins (h : readAfterSum frames e t = some q) (hjoins : joins frames = true) :
    joins q.frames = true := by
  unfold readAfterSum at h
  split at h
  case h_7 =>
    rcases Option.or_eq_some_iff.1 h with hend | ⟨-, hpredicate⟩
    · exact readEnd_joins hend hjoins
    · exact readPredicate_joins hpredicate hjoins
  case h_1 | h_2 =>
    cases h
    exact joins_cons _ (joins_of_cons hjoins rfl)
  all_goals
    cases h
    exact joins_of_cons hjoins rfl

theorem readOperand_joins (h : readOperand frames e t = some q) (hjoins : joins frames = true) :
    joins q.frames = true := by
  unfold readOperand at h
  split at h
  · cases h
    exact joins_cons _ (closeProduct_joins e hjoins)
  · cases h
    exact joins_cons _ (closeSum_joins e hjoins)
  · exact readAfterSum_joins h (closeSum_joins e hjoins)

/-- A connective is not undone. -/
theorem read_joins (h : p.read t text = some q) (hjoins : joins p.frames = true) : joins q.frames = true := by
  obtain ⟨frames, focus⟩ := p
  unfold Partial.read at h
  cases focus with
  | begin => exact readBegin_joins h hjoins
  | name name =>
    dsimp only at h
    split at h
    · cases h
      exact hjoins
    · cases h
      exact hjoins
    · exact readOperand_joins h hjoins
  | call function =>
    dsimp only at h
    split at h
    · cases h
      exact hjoins
    · exact readBegin_joins h (joins_cons _ hjoins)
  | operand e => exact readOperand_joins h hjoins
  | closed c => exact readConnective_joins h hjoins
  | _ =>
    dsimp only at h
    split at h
    all_goals
      cases h
    all_goals
      first
        | exact hjoins
        | exact joins_cons _ hjoins

theorem readAll_joins {readings : List (Terminal × String)} (h : readAll p readings = some q)
    (hjoins : joins p.frames = true) : joins q.frames = true := by
  induction readings generalizing p with
  | nil =>
    cases h
    exact hjoins
  | cons reading readings ih =>
    obtain ⟨p', hread, h⟩ := Option.bind_eq_some_iff.1 h
    exact ih h (read_joins hread hjoins)

theorem finish?_joins (h : p.finish? = some c) (hjoins : joins p.frames = true) :
    ∃ op left right, c = .logic op left right := by
  have hcondition : ∀ e? frames c, p.condition? e? = some (frames, c) → joins frames = true := by
    intro e? frames c hfound
    cases e? with
    | some e =>
      have hclose := closeSum_joins e hjoins
      simp only [Partial.condition?] at hfound
      split at hfound
      · rename_i heq
        cases hfound
        rw [heq] at hclose
        exact joins_of_cons hclose rfl
      · rename_i heq
        cases hfound
        rw [heq] at hclose
        exact joins_of_cons hclose rfl
      · cases hfound
    | none =>
      simp only [Partial.condition?] at hfound
      split at hfound
      · cases hfound
        exact hjoins
      · cases hfound
  unfold Partial.finish? at h
  split at h
  · rename_i frames c' hfound
    rcases closeOr_joins c' (hcondition _ _ _ hfound) with ⟨op, left, right, hclose⟩ | hclose
    · rw [hclose] at h
      cases h
      exact ⟨op, left, right, rfl⟩
    · split at h
      · rename_i heq
        rw [heq] at hclose
        cases hclose
      · cases h
  · cases h

/-! ## Expressions above other frames -/

/-- The frame waits for its last part within an expression. -/
def Frame.InExpr : Frame → Prop
  | .sum _ _ => True
  | .product _ _ => True
  | .negation => True
  | .args _ _ => True
  | .group => True
  | _ => False

/-- A number is as it was written, or starts with a minus sign. -/
def Signed : Expr → Prop
  | .literal (.number s) => IsNumeral s.toList ∨ ∃ rest, s = "-" ++ rest
  | _ => True

/-- What is read last of an expression. -/
def Focus.InExpr : Focus → Prop
  | .begin => True
  | .name _ => True
  | .qualifier _ => True
  | .call _ => True
  | .operand e => Signed e
  | _ => False

/-- Nothing but an expression is read so far. -/
structure Partial.InExpr (p : Partial) : Prop where
  frames : ∀ f ∈ p.frames, f.InExpr
  focus : p.focus.InExpr

/-- What is read so far, above frames that wait for it. -/
def Partial.above (p : Partial) (frames : List Frame) : Partial :=
  ⟨p.frames ++ frames, p.focus⟩

theorem signed_negate (e : Expr) : Signed (negate e) := by
  unfold negate
  split
  · exact .inr ⟨_, rfl⟩
  · trivial

/-- Frames above which sums and products are closed. -/
def Encloses : List Frame → Prop
  | .compare _ _ :: _ => True
  | .group :: _ => True
  | _ => False

variable {base : List Frame}

theorem Encloses.closeProduct (h : Encloses base) (e : Expr) : closeProduct base e = (base, e) := by
  cases base with
  | nil => rfl
  | cons f base => cases f <;> first | rfl | cases h

theorem Encloses.closeSum (h : Encloses base) (e : Expr) : closeSum base e = (base, e) := by
  cases base with
  | nil => rfl
  | cons f base => cases f <;> first | rfl | cases h

theorem closeProduct_append (hbase : Encloses base) (u : List Frame) (e : Expr) :
    closeProduct (u ++ base) e = ((closeProduct u e).1 ++ base, (closeProduct u e).2) := by
  induction u, e using closeProduct.induct with
  | case1 frames e ih => exact ih
  | case2 op left frames e ih => exact ih
  | case3 frames e hnegation hproduct =>
    rw [closeProduct.eq_3 _ _ hnegation hproduct]
    cases frames with
    | nil => exact hbase.closeProduct e
    | cons f frames =>
      rw [List.cons_append, closeProduct]
      · rintro frames' heq
        cases heq
        exact hnegation _ rfl
      · rintro op left frames' heq
        cases heq
        exact hproduct _ _ _ rfl

theorem closeSum_append (hbase : Encloses base) (u : List Frame) (e : Expr) :
    closeSum (u ++ base) e = ((closeSum u e).1 ++ base, (closeSum u e).2) := by
  induction u, e using closeSum.induct with
  | case1 frames e ih => exact ih
  | case2 op left frames e ih => exact ih
  | case3 op left frames e ih => exact ih
  | case4 frames e hnegation hproduct hsum =>
    rw [closeSum.eq_4 _ _ hnegation hproduct hsum]
    cases frames with
    | nil => exact hbase.closeSum e
    | cons f frames =>
      rw [List.cons_append, closeSum]
      · rintro frames' heq
        cases heq
        exact hnegation _ rfl
      · rintro op left frames' heq
        cases heq
        exact hproduct _ _ _ rfl
      · rintro op left frames' heq
        cases heq
        exact hsum _ _ _ rfl

theorem closeProduct_inExpr (hframes : ∀ f ∈ u, f.InExpr) (he : Signed e) :
    (∀ f ∈ (closeProduct u e).1, f.InExpr) ∧ Signed (closeProduct u e).2 := by
  induction u, e using closeProduct.induct with
  | case1 frames e ih => exact ih (List.forall_mem_cons.1 hframes).2 (signed_negate e)
  | case2 op left frames e ih => exact ih (List.forall_mem_cons.1 hframes).2 trivial
  | case3 frames e hnegation hproduct =>
    rw [closeProduct]
    · exact ⟨hframes, he⟩
    · exact hnegation
    · exact hproduct

/-- Arguments and brackets are left. -/
theorem closeSum_inExpr (hframes : ∀ f ∈ u, f.InExpr) (he : Signed e) :
    (∀ f ∈ (closeSum u e).1, f.InExpr) ∧ Signed (closeSum u e).2 ∧
      ((closeSum u e).1 = [] ∨ (∃ function done frames, (closeSum u e).1 = .args function done :: frames) ∨
        ∃ frames, (closeSum u e).1 = .group :: frames) := by
  induction u, e using closeSum.induct with
  | case1 frames e ih => exact ih (List.forall_mem_cons.1 hframes).2 (signed_negate e)
  | case2 op left frames e ih => exact ih (List.forall_mem_cons.1 hframes).2 trivial
  | case3 op left frames e ih => exact ih (List.forall_mem_cons.1 hframes).2 trivial
  | case4 frames e hnegation hproduct hsum =>
    rw [closeSum]
    · refine ⟨hframes, he, ?_⟩
      cases frames with
      | nil => exact .inl rfl
      | cons f frames =>
        have hf := hframes f (.head _)
        cases f with
        | sum op left => exact absurd rfl (hsum op left frames)
        | product op left => exact absurd rfl (hproduct op left frames)
        | negation => exact absurd rfl (hnegation frames)
        | args function done => exact .inr (.inl ⟨_, _, _, rfl⟩)
        | group => exact .inr (.inr ⟨_, rfl⟩)
        | _ => cases hf
    · exact hnegation
    · exact hproduct
    · exact hsum

/-! ## Reading above other frames -/

/-- A step in an expression is the same above a comparison and within brackets, unless the comparison ends there and is
joined with another condition. -/
def Local (step : List Frame → Option Partial) : Prop :=
  ∀ op left q, step [.compare op left] = some q → joins q.frames = true ∨
    ∃ q' : Partial, q'.InExpr ∧ q = q'.above [.compare op left] ∧
      ∀ frames, step (.group :: frames) = some (q'.above (.group :: frames))

variable {step : List Frame → Option Partial}

theorem local_of_some (hq : q.InExpr) (h : ∀ base, Encloses base → step base = some (q.above base)) : Local step := by
  intro op left q' hstep
  rw [h [.compare op left] trivial] at hstep
  cases hstep
  exact .inr ⟨q, hq, rfl, fun frames => h (.group :: frames) trivial⟩

theorem local_of_none (h : ∀ base, Encloses base → step base = none) : Local step := by
  intro op left q' hstep
  rw [h [.compare op left] trivial] at hstep
  cases hstep

theorem holdsPredicate_append (hframes : ∀ f ∈ u, f.InExpr) (hbase : Encloses base) :
    holdsPredicate (u ++ base) = false := by
  cases u with
  | nil =>
    cases base with
    | nil => cases hbase
    | cons f base => cases f <;> first | rfl | cases hbase
  | cons f u =>
    have hf := hframes f (.head _)
    cases f <;> first | rfl | cases hf

theorem local_readBegin (hframes : ∀ f ∈ u, f.InExpr) (htoken : t = .number → IsNumeral text.toList) :
    Local fun base => readBegin (u ++ base) t text := by
  have hpredicate : ∀ base, Encloses base → holdsPredicate (u ++ base) = false := fun _ =>
    holdsPredicate_append hframes
  cases t with
  | number =>
    exact local_of_some (q := ⟨u, .operand (.literal (.number text))⟩) ⟨hframes, .inl (htoken rfl)⟩ fun _ _ => rfl
  | string =>
    exact local_of_some (q := ⟨u, .operand (.literal (.string text))⟩) ⟨hframes, trivial⟩ fun _ _ => rfl
  | true => exact local_of_some (q := ⟨u, .operand (.literal (.bool true))⟩) ⟨hframes, trivial⟩ fun _ _ => rfl
  | false => exact local_of_some (q := ⟨u, .operand (.literal (.bool false))⟩) ⟨hframes, trivial⟩ fun _ _ => rfl
  | null => exact local_of_some (q := ⟨u, .operand (.literal .null)⟩) ⟨hframes, trivial⟩ fun _ _ => rfl
  | name => exact local_of_some (q := ⟨u, .name text⟩) ⟨hframes, trivial⟩ fun _ _ => rfl
  | minus =>
    exact local_of_some (q := ⟨.negation :: u, .begin⟩) ⟨List.forall_mem_cons.2 ⟨trivial, hframes⟩, trivial⟩
      fun _ _ => rfl
  | leftParen =>
    refine local_of_some (q := ⟨.group :: u, .begin⟩) ⟨List.forall_mem_cons.2 ⟨trivial, hframes⟩, trivial⟩
      fun base hbase => ?_
    rw [readBegin, hpredicate base hbase, if_neg Bool.false_ne_true]
    rfl
  | not =>
    refine local_of_none fun base hbase => ?_
    rw [readBegin, hpredicate base hbase, if_neg Bool.false_ne_true]
  | _ => exact local_of_none fun _ _ => rfl

/-- After an expression that ends before brackets, arguments or what encloses the whole. -/
theorem local_readAfterSum (hframes : ∀ f ∈ u, f.InExpr) (he : Signed e)
    (hopen : u = [] ∨ (∃ function done frames, u = .args function done :: frames) ∨
      ∃ frames, u = .group :: frames) :
    Local fun base => readAfterSum (u ++ base) e t := by
  rcases hopen with rfl | ⟨function, done, frames, rfl⟩ | ⟨frames, rfl⟩
  · intro op left q hstep
    cases t with
    | and =>
      cases hstep
      exact .inl rfl
    | or =>
      cases hstep
      exact .inl rfl
    | _ => cases hstep
  · have hrest := (List.forall_mem_cons.1 hframes).2
    cases t with
    | comma =>
      exact local_of_some (q := ⟨.args function (done ++ [e]) :: frames, .begin⟩)
        ⟨List.forall_mem_cons.2 ⟨trivial, hrest⟩, trivial⟩ fun _ _ => rfl
    | rightParen =>
      exact local_of_some (q := ⟨frames, .operand (.call function (done ++ [e]))⟩) ⟨hrest, trivial⟩ fun _ _ => rfl
    | _ => exact local_of_none fun _ _ => rfl
  · have hrest := (List.forall_mem_cons.1 hframes).2
    cases t with
    | rightParen => exact local_of_some (q := ⟨frames, .operand e⟩) ⟨hrest, he⟩ fun _ _ => rfl
    | _ => exact local_of_none fun _ _ => rfl

theorem local_readOperand (hframes : ∀ f ∈ u, f.InExpr) (he : Signed e) :
    Local fun base => readOperand (u ++ base) e t := by
  cases hproduct : productOperator? t with
  | some op =>
    obtain ⟨hclosed, -⟩ := closeProduct_inExpr hframes he
    refine local_of_some (q := ⟨.product op (closeProduct u e).2 :: (closeProduct u e).1, .begin⟩)
      ⟨List.forall_mem_cons.2 ⟨trivial, hclosed⟩, trivial⟩ fun base hbase => ?_
    simp only [readOperand, hproduct, closeProduct_append hbase]
    rfl
  | none =>
    obtain ⟨hclosed, hlast, hopen⟩ := closeSum_inExpr hframes he
    cases hsum : sumOperator? t with
    | some op =>
      refine local_of_some (q := ⟨.sum op (closeSum u e).2 :: (closeSum u e).1, .begin⟩)
        ⟨List.forall_mem_cons.2 ⟨trivial, hclosed⟩, trivial⟩ fun base hbase => ?_
      simp only [readOperand, hproduct, hsum, closeSum_append hbase]
      rfl
    | none =>
      have hafter : ∀ base, Encloses base →
          readOperand (u ++ base) e t = readAfterSum ((closeSum u e).1 ++ base) (closeSum u e).2 t := by
        intro base hbase
        simp only [readOperand, hproduct, hsum, closeSum_append hbase]
      intro op left q hstep
      dsimp only at hstep
      rw [hafter [.compare op left] trivial] at hstep
      rcases local_readAfterSum hclosed hlast hopen op left q hstep with hjoins | ⟨q', hq, rfl, hgroup⟩
      · exact .inl hjoins
      · exact .inr ⟨q', hq, rfl, fun frames => (hafter (.group :: frames) trivial).trans (hgroup frames)⟩

theorem local_read (hp : p.InExpr) (htoken : t = .number → IsNumeral text.toList) :
    Local fun base => (p.above base).read t text := by
  obtain ⟨u, focus⟩ := p
  obtain ⟨hframes, hfocus⟩ := hp
  cases focus with
  | begin => exact local_readBegin hframes htoken
  | name name =>
    cases t with
    | leftParen => exact local_of_some (q := ⟨u, .call (Text.upper name)⟩) ⟨hframes, trivial⟩ fun _ _ => rfl
    | dot => exact local_of_some (q := ⟨u, .qualifier name⟩) ⟨hframes, trivial⟩ fun _ _ => rfl
    | _ =>
      dsimp only [Partial.above, Partial.read]
      exact local_readOperand hframes trivial
  | qualifier table =>
    cases t with
    | name =>
      exact local_of_some (q := ⟨u, .operand (.column (some table) text)⟩) ⟨hframes, trivial⟩ fun _ _ => rfl
    | _ => exact local_of_none fun _ _ => rfl
  | call function =>
    cases t with
    | rightParen =>
      exact local_of_some (q := ⟨u, .operand (.call function [])⟩) ⟨hframes, trivial⟩ fun _ _ => rfl
    | _ =>
      exact local_readBegin (u := .args function [] :: u) (List.forall_mem_cons.2 ⟨trivial, hframes⟩) htoken
  | operand e => exact local_readOperand hframes hfocus
  | _ => cases hfocus

/-- An expression that is read as the right side of a comparison is read in the same way within brackets. -/
theorem readAll_above {readings : List (Terminal × String)} (hp : p.InExpr)
    (htokens : ∀ reading ∈ readings, reading.1 = .number → IsNumeral reading.2.toList)
    (h : readAll (p.above [.compare op left]) readings = some q) : joins q.frames = true ∨
      ∃ q' : Partial, q'.InExpr ∧ q = q'.above [.compare op left] ∧
        ∀ frames, readAll (p.above (.group :: frames)) readings = some (q'.above (.group :: frames)) := by
  induction readings generalizing p with
  | nil =>
    cases h
    exact .inr ⟨p, hp, rfl, fun _ => rfl⟩
  | cons reading readings ih =>
    obtain ⟨t, text⟩ := reading
    rw [List.forall_mem_cons] at htokens
    obtain ⟨p', hread, hrest⟩ := Option.bind_eq_some_iff.1 h
    rcases local_read hp htokens.1 op left p' hread with hjoins | ⟨p', hp', rfl, hgroup⟩
    · exact .inl (readAll_joins hrest hjoins)
    · rcases ih hp' htokens.2 hrest with hjoins | ⟨q', hq', rfl, hgroups⟩
      · exact .inl hjoins
      · refine .inr ⟨q', hq', rfl, fun frames => ?_⟩
        exact (congrArg (Option.bind · _) (hgroup frames)).trans (hgroups frames)

/-- An expression that a comparison ends with ends with the bracket where it stands within brackets. -/
theorem finish?_above {op' : Comparison} {left' : Expr} (last : Expr) (hq : q.InExpr)
    (hlast : ∀ base, (q.above base).operand? = some last) (hsigned : Signed last)
    (h : (q.above [.compare op left]).finish? = some (.compare op' left' e)) :
    Signed e ∧ ∀ frames, readOperand (q.frames ++ .group :: frames) last .rightParen = some ⟨frames, .operand e⟩ := by
  obtain ⟨-, hclosed, hopen⟩ := closeSum_inExpr hq.frames hsigned
  have hclose : ∀ base, Encloses base → closeSum (q.frames ++ base) last =
      ((closeSum q.frames last).1 ++ base, (closeSum q.frames last).2) := fun _ hbase => closeSum_append hbase _ _
  have hbelow := hclose [.compare op left] trivial
  unfold Partial.finish? at h
  rw [hlast] at h
  simp only [Partial.condition?, Partial.above, hbelow] at h
  rcases hopen with hnone | ⟨function, done, frames, hargs⟩ | ⟨frames, hgroup⟩
  · rw [hnone] at h
    cases h
    refine ⟨hclosed, fun frames => ?_⟩
    simp only [readOperand, productOperator?, sumOperator?, hclose (.group :: frames) trivial, hnone]
    rfl
  · rw [hargs] at h
    cases h
  · rw [hgroup] at h
    cases h

theorem read_rightParen_above {op' : Comparison} {left' : Expr} (hq : q.InExpr)
    (h : (q.above [.compare op left]).finish? = some (.compare op' left' e)) :
    Signed e ∧ ∀ frames text, (q.above (.group :: frames)).read .rightParen text = some ⟨frames, .operand e⟩ := by
  obtain ⟨u, focus⟩ := q
  have hfocus : focus.InExpr := hq.focus
  cases focus with
  | name name =>
    obtain ⟨hsigned, hread⟩ := finish?_above (.column none name) hq (fun _ => rfl) trivial h
    exact ⟨hsigned, fun frames _ => hread frames⟩
  | operand last =>
    obtain ⟨hsigned, hread⟩ := finish?_above last hq (fun _ => rfl) hfocus h
    exact ⟨hsigned, fun frames _ => hread frames⟩
  | begin | qualifier | call => cases h
  | _ => cases hfocus

/-! ## Texts of expressions -/

/-- The number zero as it is written. -/
def zero : Expr :=
  .literal (.number "0")

/-- The text is an expression and read as `e`: it can be the right side of a comparison. -/
def Denotes (text : String) (e : Expr) : Prop :=
  compile ("0 = " ++ text) = .ok (.compare .eq zero e)

variable {mode : Mode} {cs : List Char}

theorem cut_minus : cut mode ('-' :: cs) = (cut .operand cs).map ((.minus, ['-']) :: ·) :=
  cut_mark (by decide) rfl

theorem cut_leftParen : cut .operand ('(' :: cs) = (cut .operand cs).map ((.leftParen, ['(']) :: ·) :=
  cut_mark (by decide) rfl

theorem cut_zero : cut mode ('0' :: ' ' :: cs) = (cut .after cs).map ((.number, ['0']) :: ·) := by
  have hmantissa : IsMantissa ['0'] := ⟨['0'], [], rfl, by simp, List.forall_mem_singleton.2 rfl, .inl rfl⟩
  have hends : EndsMantissa ['0'] (' ' :: cs) := ⟨notNext_cons.2 (by decide), fun _ => rfl⟩
  have hcut := cut_number mode hmantissa hends
  have hnone : exponentLength (' ' :: cs) = 0 := rfl
  rw [hnone, List.drop_zero, List.take_zero, cut_blank] at hcut
  exact hcut

theorem cut_equal : cut .after ('=' :: ' ' :: cs) = (cut .operand cs).map ((.equal, ['=']) :: ·) := by
  rw [cut_mark (t := .equal) (by decide) rfl, cut_blank]
  rfl

/-- An expression is cut into pieces that are read above a comparison. -/
theorem denotes_iff : Denotes text e ↔ ∃ pieces q, cut .operand text.toList = some pieces ∧
    readAll ⟨[.compare .eq zero], .begin⟩ (pieces.map Piece.reading) = some q ∧
      q.finish? = some (.compare .eq zero e) := by
  have htext : ("0 = " ++ text).toList = '0' :: ' ' :: '=' :: ' ' :: text.toList := String.toList_append
  rw [Denotes, compile_eq_ok, htext, cut_zero, cut_equal]
  constructor
  · rintro ⟨pieces, q, hcut, hread, hfinish⟩
    simp only [Option.map_map, Option.map_eq_some_iff] at hcut
    obtain ⟨pieces, hcut, rfl⟩ := hcut
    exact ⟨pieces, q, hcut, hread, hfinish⟩
  · rintro ⟨pieces, q, hcut, hread, hfinish⟩
    exact ⟨(.number, ['0']) :: (.equal, ['=']) :: pieces, q, by rw [hcut]; rfl, hread, hfinish⟩

/-- An expression within brackets is read where any expression may stand. -/
theorem Denotes.bracketed (h : Denotes text e) : Signed e ∧ ∃ pieces,
    cut .operand ('(' :: (text.toList ++ [')'])) = some pieces ∧
      ∀ frames, holdsPredicate frames = false →
        readAll ⟨frames, .begin⟩ (pieces.map Piece.reading) = some ⟨frames, .operand e⟩ := by
  obtain ⟨pieces, q, hcut, hread, hfinish⟩ := denotes_iff.1 h
  have hnumbers : ∀ reading ∈ pieces.map Piece.reading, reading.1 = .number → IsNumeral reading.2.toList := by
    rw [List.forall_mem_map]
    rintro ⟨t, cs⟩ hpiece rfl
    show IsNumeral (String.ofList cs).toList
    rw [String.toList_ofList]
    exact isNumeral_of_cut hcut _ hpiece rfl
  have hbegin : (Partial.mk [] .begin).InExpr := ⟨List.forall_mem_nil _, trivial⟩
  rcases readAll_above hbegin hnumbers hread with hjoins | ⟨q, hq, rfl, habove⟩
  · obtain ⟨op, left, right, heq⟩ := finish?_joins hfinish hjoins
    cases heq
  · obtain ⟨hsigned, hclose⟩ := read_rightParen_above hq hfinish
    refine ⟨hsigned, (.leftParen, ['(']) :: (pieces ++ [(.rightParen, [')'])]), ?_, fun frames hframes => ?_⟩
    · rw [cut_leftParen, cut_append_paren hcut]
      rfl
    · have hopen : (Partial.mk frames .begin).read .leftParen "(" = some ⟨.group :: frames, .begin⟩ := by
        simp only [Partial.read, readBegin, hframes, if_neg Bool.false_ne_true]
      have hinside : readAll ⟨.group :: frames, .begin⟩ (pieces.map Piece.reading) =
          some (q.above (.group :: frames)) := habove frames
      rw [List.map_cons, List.map_append]
      show ((Partial.mk frames .begin).read .leftParen "(").bind _ = _
      rw [hopen, Option.bind_some, readAll_append, hinside, Option.bind_some]
      show ((q.above (.group :: frames)).read .rightParen ")").bind _ = _
      rw [hclose frames]
      rfl

/-- The minus sign before a bracketed expression. -/
theorem Denotes.minus (h : Denotes text e) : Denotes ("-(" ++ text ++ ")") (negate e) := by
  obtain ⟨-, pieces, hcut, hread⟩ := h.bracketed
  have htext : ("-(" ++ text ++ ")").toList = '-' :: '(' :: (text.toList ++ [')']) := by
    simp only [String.toList_append]
    rfl
  refine denotes_iff.2 ⟨(.minus, ['-']) :: pieces, ⟨[.negation, .compare .eq zero], .operand e⟩, ?_, ?_, rfl⟩
  · rw [htext, cut_minus, hcut]
    rfl
  · exact hread [.negation, .compare .eq zero] rfl

/-- The difference of zero and a bracketed expression. -/
theorem Denotes.zeroMinus (h : Denotes text e) :
    Denotes ("0 - (" ++ text ++ ")") (.binary .sub zero e) := by
  obtain ⟨-, pieces, hcut, hread⟩ := h.bracketed
  have htext : ("0 - (" ++ text ++ ")").toList = '0' :: ' ' :: '-' :: ' ' :: '(' :: (text.toList ++ [')']) := by
    simp only [String.toList_append]
    rfl
  refine denotes_iff.2 ⟨(.number, ['0']) :: (.minus, ['-']) :: pieces,
    ⟨[.sum .sub zero, .compare .eq zero], .operand e⟩, ?_, ?_, rfl⟩
  · rw [htext, cut_zero, cut_minus, cut_blank, hcut]
    rfl
  · exact hread [.sum .sub zero, .compare .eq zero] rfl

end Relational.Condition
