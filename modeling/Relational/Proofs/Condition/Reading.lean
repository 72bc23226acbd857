import Relational.Proofs.Condition.Cutting
import Relational.Proofs.Failure
import Relational.Proofs.Text.Blank

/-!
# Conditions read from their pieces

A text is a condition if it is cut into pieces that are read to the end. Once a name or a number is read, no operand can
follow it, and each quoted text that is read stays in the condition, in the order in which it was read.
-/

namespace Relational

open Text

namespace Condition

/-- Reads pieces from left to right. -/
def readAll (p : Partial) : List (Terminal × String) → Option Partial
  | [] => some p
  | (t, text) :: readings => (p.read t text).bind fun p => readAll p readings

variable {t : Terminal} {p q : Partial} {text text' : String}

/-! ## Reading -/

theorem readTokens_eq_ok {tokens : List Token} : readTokens p tokens = .ok q ↔
    readAll p (tokens.map fun token => Piece.reading (token.terminal, token.text)) = some q := by
  induction tokens generalizing p with
  | nil => simp [readTokens, readAll]
  | cons token tokens ih =>
    have hcontent : token.content = Token.content ⟨token.terminal, token.text, .start⟩ := rfl
    simp only [readTokens, readAll, List.map_cons, Piece.reading, ← hcontent]
    cases p.read token.terminal token.content with
    | none => simp
    | some p => exact ih

/-- A condition is what the pieces of its text are read to. -/
theorem compile_eq_ok {text : String} {c : Condition} : compile text = .ok c ↔
    ∃ pieces q, cut .predicate text.toList = some pieces ∧
      readAll ⟨[], .begin⟩ (pieces.map Piece.reading) = some q ∧ q.finish? = some c := by
  have hparse : compile text = .ok c ↔ parse text = .ok c := by
    rw [compile]
    cases parse text <;> simp
  rw [hparse, parse]
  split
  · rename_i hblank
    refine iff_of_false (fun h => nomatch h) ?_
    rintro ⟨pieces, q, hcut, hread, hfinish⟩
    have hnone : pieces = [] := by
      refine cut_of_isBlank (fun c hc => ?_) hcut
      rw [← Bool.not_eq_false]
      intro hc'
      have hmem : c ∈ stripChars text.toList := mem_trimWhile hc hc'
      rw [List.isEmpty_iff.1 hblank] at hmem
      cases hmem
    subst hnone
    cases hread
    cases hfinish
  · dsimp only
    rw [bind_eq_ok]
    simp only [readTokens_eq_ok, cut_eq_some_iff .start, scan]
    generalize scanFrom .predicate .start text.toList = scanned
    obtain ⟨tokens, fault⟩ := scanned
    constructor
    · rintro ⟨q, hread, hfinish⟩
      cases fault with
      | some fault => cases hfinish
      | none =>
        refine ⟨_, q, ⟨rfl, rfl⟩, by rw [List.map_map]; exact hread, ?_⟩
        cases hlast : q.finish? with
        | none => rw [hlast] at hfinish; cases hfinish
        | some c => rw [hlast] at hfinish; cases hfinish; rfl
    · rintro ⟨pieces, q, ⟨rfl, rfl⟩, hread, hfinish⟩
      rw [List.map_map] at hread
      refine ⟨q, hread, ?_⟩
      rw [hfinish]
      rfl

theorem readAll_append (p : Partial) (readings readings' : List (Terminal × String)) :
    readAll p (readings ++ readings') = (readAll p readings).bind (readAll · readings') := by
  induction readings generalizing p with
  | nil => rfl
  | cons reading readings ih =>
    rw [List.cons_append, readAll, readAll, Option.bind_assoc]
    exact congrArg _ (funext ih)

/-! ## What cannot follow -/

/-- After an operand no other operand and no point is read. -/
theorem readOperand_eq_none (h : t = .name ∨ t = .number ∨ t = .dot) (frames : List Frame) (e : Expr) :
    readOperand frames e t = none := by
  have hconnective : ∀ frames c, readConnective frames c t = none := by
    intro frames c
    rcases h with rfl | rfl | rfl
    · rfl
    · rfl
    · rfl
  have hend : ∀ frames e, readEnd frames e t = none := by
    intro frames e
    unfold readEnd
    split
    · exact hconnective _ _
    · exact hconnective _ _
    · rfl
  have hpredicate : ∀ frames e, readPredicate frames e t = none := by
    intro frames e
    rcases h with rfl | rfl | rfl
    · exact ite_self none
    · exact ite_self none
    · exact ite_self none
  have hsum : ∀ frames e, readAfterSum frames e t = none := by
    intro frames e
    have hother : readAfterSum frames e t = (readEnd frames e t).or (readPredicate frames e t) := by
      rcases h with rfl | rfl | rfl
      · rfl
      · rfl
      · rfl
    rw [hother, hend, hpredicate, Option.or_none]
  rcases h with rfl | rfl | rfl
  · exact hsum _ _
  · exact hsum _ _
  · exact hsum _ _

/-- A number is the last part of what is read. -/
theorem exists_operand_of_read_number (h : p.read .number text = some q) : ∃ frames e, q = ⟨frames, .operand e⟩ := by
  have hnone := readOperand_eq_none (t := .number) (.inr (.inl rfl))
  obtain ⟨frames, focus⟩ := p
  cases focus with
  | begin =>
    cases h
    exact ⟨_, _, rfl⟩
  | call function =>
    cases h
    exact ⟨_, _, rfl⟩
  | name name => cases (hnone frames _).symm.trans h
  | operand e => cases (hnone frames e).symm.trans h
  | _ => cases h

theorem read_after_number (h : p.read .number text = some q) (ht : t = .name ∨ t = .number ∨ t = .dot) :
    q.read t text' = none := by
  obtain ⟨frames, e, rfl⟩ := exists_operand_of_read_number h
  exact readOperand_eq_none ht frames e

theorem read_number_after_name (h : p.read .name text = some q) : q.read .number text' = none := by
  have hname := readOperand_eq_none (t := .name) (.inl rfl)
  have hnumber := readOperand_eq_none (t := .number) (.inr (.inl rfl))
  obtain ⟨frames, focus⟩ := p
  cases focus with
  | begin =>
    cases h
    exact hnumber _ _
  | call function =>
    cases h
    exact hnumber (.args function [] :: frames) (.column none text)
  | qualifier table =>
    cases h
    exact hnumber _ _
  | name name => cases (hname frames _).symm.trans h
  | operand e => cases (hname frames e).symm.trans h
  | _ => cases h

end Condition

/-! ## Quoted texts -/

mutual

/-- The quoted texts of an expression, from left to right. -/
def Expr.strings : Expr → List String
  | .column _ _ => []
  | .literal (.string text) => [text]
  | .literal _ => []
  | .call _ args => allStrings args
  | .binary _ left right => left.strings ++ right.strings

/-- The quoted texts of expressions, from left to right. -/
def allStrings : List Expr → List String
  | [] => []
  | e :: es => e.strings ++ allStrings es

end

theorem allStrings_append (es es' : List Expr) : allStrings (es ++ es') = allStrings es ++ allStrings es' := by
  induction es with
  | nil => rfl
  | cons e es ih => rw [List.cons_append, allStrings, allStrings, ih, List.append_assoc]

namespace Condition

/-- The quoted texts of a condition, from left to right. -/
def strings : Condition → List String
  | .compare _ left right => left.strings ++ right.strings
  | .logic _ left right => left.strings ++ right.strings
  | .not operand => operand.strings
  | .isNull _ operand => operand.strings
  | .inList _ operand items => operand.strings ++ allStrings items
  | .like _ operand pattern => operand.strings ++ pattern.strings

/-- The quoted texts of a construct, as far as it is read. -/
def Frame.strings : Frame → List String
  | .sum _ left => left.strings
  | .product _ left => left.strings
  | .negation => []
  | .args _ done => allStrings done
  | .group => []
  | .compare _ left => left.strings
  | .like _ left => left.strings
  | .items _ left done => left.strings ++ allStrings done
  | .not => []
  | .and left => left.strings
  | .or left => left.strings
  | .open => []

/-- The quoted texts of constructs, the innermost construct first. -/
def frameStrings : List Frame → List String
  | [] => []
  | frame :: frames => frameStrings frames ++ frame.strings

/-- The quoted texts of the part read last. -/
def Focus.strings : Focus → List String
  | .begin => []
  | .name _ => []
  | .qualifier _ => []
  | .call _ => []
  | .operand e => e.strings
  | .is e => e.strings
  | .isNot e => e.strings
  | .not e => e.strings
  | .in _ e => e.strings
  | .closed c => c.strings

/-- The quoted texts that are read, from left to right. -/
def Partial.strings (p : Partial) : List String :=
  frameStrings p.frames ++ p.focus.strings

/-- The quoted text that a token contributes. -/
def quoted (reading : Terminal × String) : List String :=
  if reading.1 = .string then [reading.2] else []

/-! ### Closing frames -/

@[simp] theorem negate_strings (e : Expr) : (negate e).strings = e.strings := by
  unfold negate
  split
  · rfl
  · simp [Expr.strings]

theorem closeProduct_strings (frames : List Frame) (e : Expr) :
    frameStrings (closeProduct frames e).1 ++ (closeProduct frames e).2.strings = frameStrings frames ++ e.strings := by
  induction frames, e using closeProduct.induct with
  | case1 frames e ih => simpa [closeProduct, frameStrings, Frame.strings] using ih
  | case2 op left frames e ih => simpa [closeProduct, frameStrings, Frame.strings, Expr.strings] using ih
  | case3 frames e hnegation hproduct =>
    rw [closeProduct]
    · exact hnegation
    · exact hproduct

theorem closeSum_strings (frames : List Frame) (e : Expr) :
    frameStrings (closeSum frames e).1 ++ (closeSum frames e).2.strings = frameStrings frames ++ e.strings := by
  induction frames, e using closeSum.induct with
  | case1 frames e ih => simpa [closeSum, frameStrings, Frame.strings] using ih
  | case2 op left frames e ih => simpa [closeSum, frameStrings, Frame.strings, Expr.strings] using ih
  | case3 op left frames e ih => simpa [closeSum, frameStrings, Frame.strings, Expr.strings] using ih
  | case4 frames e hnegation hproduct hsum =>
    rw [closeSum]
    · exact hnegation
    · exact hproduct
    · exact hsum

theorem closeAnd_strings (frames : List Frame) (c : Condition) :
    frameStrings (closeAnd frames c).1 ++ (closeAnd frames c).2.strings = frameStrings frames ++ c.strings := by
  induction frames, c using closeAnd.induct with
  | case1 frames c ih => simpa [closeAnd, frameStrings, Frame.strings, strings] using ih
  | case2 left frames c ih => simpa [closeAnd, frameStrings, Frame.strings, strings] using ih
  | case3 frames c hnot hand =>
    rw [closeAnd]
    · exact hnot
    · exact hand

theorem closeOr_strings (frames : List Frame) (c : Condition) :
    frameStrings (closeOr frames c).1 ++ (closeOr frames c).2.strings = frameStrings frames ++ c.strings := by
  induction frames, c using closeOr.induct with
  | case1 frames c ih => simpa [closeOr, frameStrings, Frame.strings, strings] using ih
  | case2 left frames c ih => simpa [closeOr, frameStrings, Frame.strings, strings] using ih
  | case3 left frames c ih => simpa [closeOr, frameStrings, Frame.strings, strings] using ih
  | case4 frames c hnot hand hor =>
    rw [closeOr]
    · exact hnot
    · exact hand
    · exact hor

/-! ### Reading a token -/

variable {t : Terminal} {text : String} {p q : Partial} {frames : List Frame} {e : Expr} {c : Condition}

theorem readBegin_strings (h : readBegin frames t text = some q) : q.strings = frameStrings frames ++ quoted (t, text) := by
  unfold readBegin at h
  split at h
  case h_9 => 
    split at h
    · cases h
      simp [Partial.strings, frameStrings, Frame.strings, Focus.strings, quoted]
    · cases h
  case h_10 => cases h
  case h_8 =>
    cases h
    split
    · simp [Partial.strings, frameStrings, Frame.strings, Focus.strings, quoted]
    · simp [Partial.strings, frameStrings, Frame.strings, Focus.strings, quoted]
  all_goals
    cases h
    simp [Partial.strings, frameStrings, Frame.strings, Focus.strings, quoted, Expr.strings]

theorem readConnective_strings (h : readConnective frames c t = some q) :
    t ≠ .string ∧ q.strings = frameStrings frames ++ c.strings := by
  unfold readConnective at h
  split at h
  · cases h
    have hclose := closeAnd_strings frames c
    simpa [Partial.strings, frameStrings, Frame.strings, Focus.strings] using hclose
  · cases h
    have hclose := closeOr_strings frames c
    simpa [Partial.strings, frameStrings, Frame.strings, Focus.strings] using hclose
  · have hclose := closeOr_strings frames c
    split at h
    · rename_i frames' c' heq
      cases h
      rw [heq] at hclose
      simpa [Partial.strings, frameStrings, Frame.strings, Focus.strings] using hclose
    · cases h
  · cases h

theorem readPredicate_strings (h : readPredicate frames e t = some q) :
    t ≠ .string ∧ q.strings = frameStrings frames ++ e.strings := by
  unfold readPredicate at h
  split at h
  · split at h
    · rename_i op hop
      cases h
      refine ⟨?_, by simp [Partial.strings, frameStrings, Frame.strings, Focus.strings]⟩
      rintro rfl
      cases hop
    · split at h
      case h_5 => cases h
      all_goals
        cases h
        simp [Partial.strings, frameStrings, Frame.strings, Focus.strings]
  · cases h

theorem readEnd_strings (h : readEnd frames e t = some q) :
    t ≠ .string ∧ q.strings = frameStrings frames ++ e.strings := by
  unfold readEnd at h
  split at h
  · simpa [frameStrings, Frame.strings, strings] using readConnective_strings h
  · simpa [frameStrings, Frame.strings, strings] using readConnective_strings h
  · cases h

theorem readAfterSum_strings (h : readAfterSum frames e t = some q) :
    t ≠ .string ∧ q.strings = frameStrings frames ++ e.strings := by
  unfold readAfterSum at h
  split at h
  case h_7 =>
    rcases Option.or_eq_some_iff.1 h with hend | ⟨-, hpredicate⟩
    · exact readEnd_strings hend
    · exact readPredicate_strings hpredicate
  all_goals
    cases h
    simp [Partial.strings, frameStrings, Frame.strings, Focus.strings, Expr.strings, strings, allStrings_append,
      allStrings]

theorem readOperand_strings (h : readOperand frames e t = some q) :
    t ≠ .string ∧ q.strings = frameStrings frames ++ e.strings := by
  unfold readOperand at h
  split at h
  · rename_i op hop
    cases h
    have hclose := closeProduct_strings frames e
    refine ⟨?_, by simpa [Partial.strings, frameStrings, Frame.strings, Focus.strings] using hclose⟩
    rintro rfl
    cases hop
  · rename_i op hop
    cases h
    have hclose := closeSum_strings frames e
    refine ⟨?_, by simpa [Partial.strings, frameStrings, Frame.strings, Focus.strings] using hclose⟩
    rintro rfl
    cases hop
  · rw [← closeSum_strings]
    exact readAfterSum_strings h

/-- A token adds its text if it is a quoted one, and nothing else. -/
theorem read_strings (h : p.read t text = some q) : q.strings = p.strings ++ quoted (t, text) := by
  have hother : t ≠ .string ∧ q.strings = p.strings → q.strings = p.strings ++ quoted (t, text) := by
    rintro ⟨ht, hstrings⟩
    rw [quoted, if_neg ht, List.append_nil, hstrings]
  obtain ⟨frames, focus⟩ := p
  unfold Partial.read at h
  cases focus with
  | begin => simpa [Partial.strings, Focus.strings] using readBegin_strings h
  | name name =>
    refine hother ?_
    dsimp only at h
    split at h
    · cases h
      simp [Partial.strings, Focus.strings]
    · cases h
      simp [Partial.strings, Focus.strings]
    · simpa [Partial.strings, Focus.strings, Expr.strings] using readOperand_strings h
  | qualifier table =>
    refine hother ?_
    dsimp only at h
    split at h
    · cases h
      simp [Partial.strings, Focus.strings, Expr.strings]
    · cases h
  | call function =>
    dsimp only at h
    split at h
    · cases h
      simp [Partial.strings, Focus.strings, Expr.strings, allStrings, quoted]
    · simpa [Partial.strings, Focus.strings, frameStrings, Frame.strings, allStrings] using readBegin_strings h
  | operand e => exact hother (readOperand_strings h)
  | closed c => exact hother (readConnective_strings h)
  | _ =>
    refine hother ?_
    dsimp only at h
    split at h
    all_goals
      cases h
    all_goals
      simp [Partial.strings, Focus.strings, frameStrings, Frame.strings, strings, allStrings]

theorem readAll_strings {readings : List (Terminal × String)} (h : readAll p readings = some q) :
    q.strings = p.strings ++ readings.flatMap quoted := by
  induction readings generalizing p with
  | nil =>
    cases h
    simp
  | cons reading readings ih =>
    obtain ⟨p', hread, h⟩ := Option.bind_eq_some_iff.1 h
    rw [ih h, read_strings hread, List.flatMap_cons, List.append_assoc]

theorem finish?_strings (h : p.finish? = some c) : c.strings = p.strings := by
  have hcondition : ∀ e? frames c, (∀ e, e? = some e → p.focus.strings = e.strings) → p.condition? e? = some (frames, c) →
      frameStrings frames ++ c.strings = p.strings := by
    intro e? frames c hfocus hfound
    cases e? with
    | some e =>
      have hclose := closeSum_strings p.frames e
      rw [Partial.strings, hfocus e rfl, ← hclose]
      simp only [Partial.condition?] at hfound
      split at hfound
      · rename_i heq
        cases hfound
        rw [heq]
        simp [frameStrings, Frame.strings, strings]
      · rename_i heq
        cases hfound
        rw [heq]
        simp [frameStrings, Frame.strings, strings]
      · cases hfound
    | none =>
      simp only [Partial.condition?] at hfound
      split at hfound
      · rename_i hclosed
        cases hfound
        rw [Partial.strings, hclosed, Focus.strings]
      · cases hfound
  have hoperand : ∀ e, p.operand? = some e → p.focus.strings = e.strings := by
    intro e he
    unfold Partial.operand? at he
    split at he
    · rename_i hname
      cases he
      rw [hname, Focus.strings, Expr.strings]
    · rename_i hfocus
      cases he
      rw [hfocus, Focus.strings]
    · cases he
  unfold Partial.finish? at h
  split at h
  · rename_i frames c' hfound
    have hclose := closeOr_strings frames c'
    rw [hcondition _ _ _ hoperand hfound] at hclose
    split at h
    · rename_i heq
      cases h
      rw [heq, frameStrings, List.nil_append] at hclose
      exact hclose
    · cases h
  · cases h

/-! ## Readings that differ -/

/-- Two texts are read alike up to a place where other characters are quoted, or where the second one has a name right
after a number. -/
inductive Diverges : List (Terminal × String) → List (Terminal × String) → Prop where
  | quoted {text text' : String} {readings readings' : List (Terminal × String)} (h : text ≠ text') :
      Diverges ((.string, text) :: readings) ((.string, text') :: readings')
  | number {text text' name : String} {readings readings' : List (Terminal × String)} :
      Diverges ((.number, text) :: readings) ((.number, text') :: (.name, name) :: readings')
  | later {reading : Terminal × String} {readings readings' : List (Terminal × String)}
      (h : Diverges readings readings') : Diverges (reading :: readings) (reading :: readings')

variable {readings readings' : List (Terminal × String)}

theorem Diverges.append (h : Diverges readings readings') (before : List (Terminal × String)) :
    Diverges (before ++ readings) (before ++ readings') := by
  induction before with
  | nil => exact h
  | cons reading before ih => exact .later ih

theorem Diverges.quoted_ne (h : Diverges readings readings') (hread : readAll p readings' = some q) :
    readings.flatMap Condition.quoted ≠ readings'.flatMap Condition.quoted := by
  induction h generalizing p with
  | quoted h =>
    intro heq
    exact h (List.cons.inj heq).1
  | number =>
    obtain ⟨p', hnumber, hread⟩ := Option.bind_eq_some_iff.1 hread
    obtain ⟨p'', hname, -⟩ := Option.bind_eq_some_iff.1 hread
    rw [read_after_number hnumber (.inl rfl)] at hname
    cases hname
  | later h ih =>
    obtain ⟨p', -, hread⟩ := Option.bind_eq_some_iff.1 hread
    intro heq
    rw [List.flatMap_cons, List.flatMap_cons] at heq
    exact ih hread (List.append_cancel_left heq)

/-- Texts whose readings differ are no two spellings of one condition. -/
theorem Diverges.condition_ne {q' : Partial} {c' : Condition} (h : Diverges readings readings')
    (hread : readAll p readings = some q) (hread' : readAll p readings' = some q') (hfinish : q.finish? = some c)
    (hfinish' : q'.finish? = some c') : c ≠ c' := by
  rintro rfl
  have hstrings : q.strings = q'.strings := (finish?_strings hfinish).symm.trans (finish?_strings hfinish')
  rw [readAll_strings hread, readAll_strings hread'] at hstrings
  exact h.quoted_ne hread' (List.append_cancel_left hstrings)

end Condition

end Relational
