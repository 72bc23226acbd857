import Relational.Proofs.Condition.Reading
import Relational.Proofs.Evaluation.SmallNames

/-!
# Reading a condition with small names

The reader of conditions does not look at names: it does the same steps when every name is in small letters, and what
comes out is the same condition with its names in small letters.
-/

namespace Relational.Condition

open Text

/-- The construct with its names in small letters. -/
def Frame.small : Frame → Frame
  | .sum op left => .sum op left.small
  | .product op left => .product op left.small
  | .negation => .negation
  | .args function done => .args function (done.map Expr.small)
  | .group => .group
  | .compare op left => .compare op left.small
  | .like negated left => .like negated left.small
  | .items negated left done => .items negated left.small (done.map Expr.small)
  | .not => .not
  | .and left => .and left.small
  | .or left => .or left.small
  | .open => .open

/-- The part read last with its names in small letters. -/
def Focus.small : Focus → Focus
  | .begin => .begin
  | .name column => .name column.toLower
  | .qualifier table => .qualifier table.toLower
  | .call function => .call function
  | .operand e => .operand e.small
  | .is e => .is e.small
  | .isNot e => .isNot e.small
  | .not e => .not e.small
  | .in negated e => .in negated e.small
  | .closed c => .closed c.small

/-- What is read so far, with its names in small letters. -/
def Partial.small (p : Partial) : Partial :=
  ⟨p.frames.map Frame.small, p.focus.small⟩

/-- What a token contributes, in small letters unless it is a number or a quoted text. -/
def smallText (t : Terminal) (text : String) : String :=
  if t = .number ∨ t = .string then text else text.toLower

variable {frames : List Frame} {e : Expr} {c : Condition} {t : Terminal} {p : Partial}

theorem holdsPredicate_small (frames : List Frame) : holdsPredicate (frames.map Frame.small) = holdsPredicate frames := by
  cases frames with
  | nil => rfl
  | cons frame frames => cases frame <;> rfl

theorem negate_small (e : Expr) : negate e.small = (negate e).small := by
  cases e with
  | literal value => cases value <;> rfl
  | _ => rfl

theorem closeProduct_small (frames : List Frame) (e : Expr) :
    closeProduct (frames.map Frame.small) e.small =
      ((closeProduct frames e).1.map Frame.small, (closeProduct frames e).2.small) := by
  induction frames generalizing e with
  | nil => rfl
  | cons frame frames ih =>
    cases frame with
    | negation => simpa only [List.map_cons, Frame.small, closeProduct, negate_small] using ih (negate e)
    | product op left => exact ih (.binary op left e)
    | _ => rfl

theorem closeSum_small (frames : List Frame) (e : Expr) :
    closeSum (frames.map Frame.small) e.small =
      ((closeSum frames e).1.map Frame.small, (closeSum frames e).2.small) := by
  induction frames generalizing e with
  | nil => rfl
  | cons frame frames ih =>
    cases frame with
    | negation => simpa only [List.map_cons, Frame.small, closeSum, negate_small] using ih (negate e)
    | product op left => exact ih (.binary op left e)
    | sum op left => exact ih (.binary op left e)
    | _ => rfl

theorem closeAnd_small (frames : List Frame) (c : Condition) :
    closeAnd (frames.map Frame.small) c.small =
      ((closeAnd frames c).1.map Frame.small, (closeAnd frames c).2.small) := by
  induction frames generalizing c with
  | nil => rfl
  | cons frame frames ih =>
    cases frame with
    | not => exact ih (.not c)
    | and left => exact ih (.logic .and left c)
    | _ => rfl

theorem closeOr_small (frames : List Frame) (c : Condition) :
    closeOr (frames.map Frame.small) c.small =
      ((closeOr frames c).1.map Frame.small, (closeOr frames c).2.small) := by
  induction frames generalizing c with
  | nil => rfl
  | cons frame frames ih =>
    cases frame with
    | not => exact ih (.not c)
    | and left => exact ih (.logic .and left c)
    | or left => exact ih (.logic .or left c)
    | _ => rfl

theorem readBegin_small (frames : List Frame) (t : Terminal) (text : String) :
    readBegin (frames.map Frame.small) t (smallText t text) = (readBegin frames t text).map Partial.small := by
  cases t with
  | leftParen =>
    simp only [readBegin, holdsPredicate_small]
    split
    · rfl
    · rfl
  | not =>
    simp only [readBegin, holdsPredicate_small]
    split
    · rfl
    · rfl
  | _ => rfl

theorem readPredicate_small (frames : List Frame) (e : Expr) (t : Terminal) :
    readPredicate (frames.map Frame.small) e.small t = (readPredicate frames e t).map Partial.small := by
  unfold readPredicate
  rw [holdsPredicate_small]
  split
  · cases t <;> rfl
  · rfl

theorem readConnective_small (frames : List Frame) (c : Condition) (t : Terminal) :
    readConnective (frames.map Frame.small) c.small t = (readConnective frames c t).map Partial.small := by
  cases t with
  | and =>
    simp only [readConnective, closeAnd_small]
    rfl
  | or =>
    simp only [readConnective, closeOr_small]
    rfl
  | rightParen =>
    simp only [readConnective, closeOr_small]
    obtain ⟨frames, c⟩ := closeOr frames c
    cases frames with
    | nil => rfl
    | cons frame frames => cases frame <;> rfl
  | _ => rfl

theorem readEnd_small (frames : List Frame) (e : Expr) (t : Terminal) :
    readEnd (frames.map Frame.small) e.small t = (readEnd frames e t).map Partial.small := by
  cases frames with
  | nil => rfl
  | cons frame frames =>
    cases frame with
    | compare op left => exact readConnective_small frames (.compare op left e) t
    | like negated left => exact readConnective_small frames (.like negated left e) t
    | _ => rfl

theorem readAfterSum_small (frames : List Frame) (e : Expr) (t : Terminal) :
    readAfterSum (frames.map Frame.small) e.small t = (readAfterSum frames e t).map Partial.small := by
  have hother : (readEnd (frames.map Frame.small) e.small t).or (readPredicate (frames.map Frame.small) e.small t) =
      ((readEnd frames e t).or (readPredicate frames e t)).map Partial.small := by
    rw [readEnd_small, readPredicate_small, Option.map_or]
  cases frames with
  | nil => cases t <;> exact hother
  | cons frame frames =>
    cases t with
    | comma =>
      cases frame with
      | args function done => simp [readAfterSum, Frame.small, Partial.small, Focus.small]
      | items negated left done => simp [readAfterSum, Frame.small, Partial.small, Focus.small]
      | _ => exact hother
    | rightParen =>
      cases frame with
      | args function done =>
        simp [readAfterSum, Frame.small, Partial.small, Focus.small, Expr.small, allSmall_eq_map]
      | items negated left done => simp [readAfterSum, Frame.small, Partial.small, Focus.small, small]
      | group => rfl
      | «open» => rfl
      | _ => exact hother
    | _ => cases frame <;> exact hother

theorem readOperand_small (frames : List Frame) (e : Expr) (t : Terminal) :
    readOperand (frames.map Frame.small) e.small t = (readOperand frames e t).map Partial.small := by
  unfold readOperand
  rw [closeProduct_small, closeSum_small]
  cases productOperator? t with
  | some op => rfl
  | none =>
    cases sumOperator? t with
    | some op => rfl
    | none => exact readAfterSum_small _ _ t

/-- A token is read in the same way when names are in small letters. -/
theorem read_small (p : Partial) (t : Terminal) (text : String) :
    p.small.read t (smallText t text) = (p.read t text).map Partial.small := by
  obtain ⟨frames, focus⟩ := p
  cases focus with
  | begin => exact readBegin_small frames t text
  | name name =>
    have hother := readOperand_small frames (.column none name) t
    cases t with
    | leftParen =>
      simp only [Partial.small, Focus.small, Partial.read, upper_toLower]
      rfl
    | dot => rfl
    | _ => exact hother
  | qualifier table => cases t <;> rfl
  | call function =>
    have hother := readBegin_small (.args function [] :: frames) t text
    cases t with
    | rightParen => rfl
    | _ => exact hother
  | operand e => exact readOperand_small frames e t
  | is e => cases t <;> rfl
  | isNot e => cases t <;> rfl
  | not e => cases t <;> rfl
  | «in» negated e => cases t <;> rfl
  | closed c => exact readConnective_small frames c t

theorem operand?_small (p : Partial) : p.small.operand? = p.operand?.map Expr.small := by
  obtain ⟨frames, focus⟩ := p
  cases focus <;> rfl

theorem condition?_small (p : Partial) (e? : Option Expr) : p.small.condition? (e?.map Expr.small) =
    (p.condition? e?).map fun found => (found.1.map Frame.small, found.2.small) := by
  obtain ⟨frames, focus⟩ := p
  cases e? with
  | none => cases focus <;> rfl
  | some e =>
    simp only [Partial.condition?, Partial.small, Option.map_some, closeSum_small]
    obtain ⟨frames, e⟩ := closeSum frames e
    cases frames with
    | nil => rfl
    | cons frame frames => cases frame <;> rfl

theorem finish?_small (p : Partial) : p.small.finish? = p.finish?.map small := by
  unfold Partial.finish?
  rw [operand?_small, condition?_small]
  cases p.condition? p.operand? with
  | none => rfl
  | some found =>
    simp only [Option.map_some, closeOr_small]
    obtain ⟨frames, c⟩ := closeOr found.1 found.2
    cases frames with
    | nil => rfl
    | cons frame frames => rfl

/-- Tokens are read in the same way when names are in small letters. -/
theorem readAll_small (p : Partial) (readings : List (Terminal × String)) :
    readAll p.small (readings.map fun reading => (reading.1, smallText reading.1 reading.2)) =
      (readAll p readings).map Partial.small := by
  induction readings generalizing p with
  | nil => rfl
  | cons reading readings ih =>
    rw [List.map_cons, readAll, readAll, read_small]
    cases p.read reading.1 reading.2 with
    | none => rfl
    | some q => exact ih q

end Relational.Condition
