import Relational.Proofs.Condition.Printer
import Relational.Proofs.Condition.Reading

/-!
# Written conditions are read back

Reading the words of an expression leaves an expression whose frames close to the one that was written, and the same
holds of conditions. An operator whose strength the innermost frame admits closes what stands before it and waits for
its right side, so sides that are weaker, or of the same strength on the right, are read as sides only in parentheses.
-/

namespace Relational

open Text

namespace Condition

variable {p q r : Partial} {t : Terminal} {text : String} {words left right : List Word} {frames : List Frame}
  {e : Expr} {c : Condition} {strength : Nat}

/-! ## Reading words -/

/-- What the pieces among words contribute. -/
def readingsOf (words : List Word) : List (Terminal × String) :=
  (piecesOf words).map Piece.reading

/-- Reading words leads from one part of a condition to a greater one. -/
def Leads (p : Partial) (words : List Word) (q : Partial) : Prop :=
  readAll p (readingsOf words) = some q

theorem Leads.nil : Leads p [] p := rfl

theorem Leads.append (h : Leads p left q) (h' : Leads q right r) : Leads p (left ++ right) r := by
  rw [Leads, readingsOf, piecesOf_append, List.map_append, readAll_append]
  exact Option.bind_eq_some_iff.2 ⟨q, h, h'⟩

theorem Leads.blank (h : Leads p words q) : Leads p (.blank :: words) q := h

theorem Leads.piece {cs : List Char} (hread : p.read t (Piece.reading (t, cs)).2 = some q) (h : Leads q words r) :
    Leads p (.piece t cs :: words) r :=
  Option.bind_eq_some_iff.2 ⟨q, hread, h⟩

theorem reading_of_ne_string {cs : List Char} (ht : t ≠ .string) : Piece.reading (t, cs) = (t, String.ofList cs) := by
  unfold Piece.reading Token.content
  split
  · exact absurd ‹_› ht
  · rfl

theorem Leads.symbol (ht : t ≠ .string) (hread : p.read t text = some q) (h : Leads q words r) :
    Leads p (symbol t text :: words) r := by
  refine Leads.piece ?_ h
  rw [reading_of_ne_string ht, String.ofList_toList]
  exact hread

theorem Leads.parentheses (hopen : p.read .leftParen "(" = some q) (h : Leads q words q')
    (hclose : q'.read .rightParen ")" = some r) :
    Leads p (mark .leftParen '(' :: (words ++ [mark .rightParen ')'])) r := by
  have hleft : mark .leftParen '(' = Condition.symbol .leftParen "(" := rfl
  have hright : mark .rightParen ')' = Condition.symbol .rightParen ")" := rfl
  rw [hleft, hright]
  exact .symbol (by decide) hopen (h.append (.symbol (by decide) hclose .nil))

/-! ## Closing frames -/

/-- An expression of a strength may stand as the last part of the innermost frame. -/
def holdsExpr : List Frame → Nat → Prop
  | .negation :: _, strength => 2 ≤ strength
  | .product _ _ :: _, strength => 2 ≤ strength
  | .sum _ _ :: _, strength => 1 ≤ strength
  | _, _ => True

/-- A condition of a strength may stand as the last part of the innermost frame. -/
def holdsCondition : List Frame → Nat → Prop
  | .not :: _, strength => 2 ≤ strength
  | .and _ :: _, strength => 2 ≤ strength
  | .or _ :: _, strength => 1 ≤ strength
  | _, _ => True

theorem holdsExpr_mono {strength' : Nat} (h : holdsExpr frames strength) (hle : strength ≤ strength') :
    holdsExpr frames strength' := by
  unfold holdsExpr at h ⊢
  split
  all_goals first | trivial | exact Nat.le_trans h hle

theorem holdsCondition_mono {strength' : Nat} (h : holdsCondition frames strength) (hle : strength ≤ strength') :
    holdsCondition frames strength' := by
  unfold holdsCondition at h ⊢
  split
  all_goals first | trivial | exact Nat.le_trans h hle

theorem closeProduct_of_holdsExpr (h : holdsExpr frames 1) (e : Expr) : closeProduct frames e = (frames, e) := by
  unfold closeProduct
  split
  · simp [holdsExpr] at h
  · simp [holdsExpr] at h
  · rfl

theorem closeSum_of_holdsExpr (h : holdsExpr frames 0) (e : Expr) : closeSum frames e = (frames, e) := by
  unfold closeSum
  split
  · simp [holdsExpr] at h
  · simp [holdsExpr] at h
  · simp [holdsExpr] at h
  · rfl

theorem closeAnd_of_holdsCondition (h : holdsCondition frames 1) (c : Condition) : closeAnd frames c = (frames, c) := by
  unfold closeAnd
  split
  · simp [holdsCondition] at h
  · simp [holdsCondition] at h
  · rfl

theorem closeOr_of_holdsCondition (h : holdsCondition frames 0) (c : Condition) : closeOr frames c = (frames, c) := by
  unfold closeOr
  split
  · simp [holdsCondition] at h
  · simp [holdsCondition] at h
  · simp [holdsCondition] at h
  · rfl

/-- Where a predicate may stand, a whole expression may stand. -/
theorem holdsExpr_of_holdsPredicate (h : holdsPredicate frames = true) : holdsExpr frames 0 := by
  unfold holdsExpr
  split
  · cases h
  · cases h
  · cases h
  · trivial

/-! ## Reading after an operand -/

theorem read_of_operand? (h : p.operand? = some e) (hparen : t ≠ .leftParen) (hdot : t ≠ .dot) :
    p.read t text = readOperand p.frames e t := by
  obtain ⟨frames, focus⟩ := p
  cases focus with
  | name name =>
    cases h
    simp only [Partial.read]
  | operand e' =>
    cases h
    rfl
  | _ => cases h

/-- What is read ends with an expression, whose frames close as those around `e` do. -/
def Ends (p : Partial) (strength : Nat) (frames : List Frame) (e : Expr) : Prop :=
  ∃ e', p.operand? = some e' ∧ closeSum p.frames e' = closeSum frames e ∧
    (1 ≤ strength → closeProduct p.frames e' = closeProduct frames e)

theorem Ends.operand (frames : List Frame) (e : Expr) : Ends ⟨frames, .operand e⟩ strength frames e :=
  ⟨e, rfl, rfl, fun _ => rfl⟩

/-- Words are read as an expression wherever an expression of a strength may stand. -/
def ReadsAs (words : List Word) (strength : Nat) (e : Expr) : Prop :=
  ∀ frames, holdsExpr frames strength → ∃ p, Leads ⟨frames, .begin⟩ words p ∧ Ends p strength frames e

/-- A token that is no operator of expressions finds the sums before it closed. -/
theorem Ends.read (h : Ends p strength frames e) (hholds : holdsExpr frames 0)
    (ht : productOperator? t = none ∧ sumOperator? t = none) (hparen : t ≠ .leftParen) (hdot : t ≠ .dot) :
    p.read t text = readAfterSum frames e t := by
  obtain ⟨e', hoperand, hsum, -⟩ := h
  rw [read_of_operand? hoperand hparen hdot, readOperand, ht.1, ht.2]
  simp only [hsum, closeSum_of_holdsExpr hholds]

/-! ## Expressions -/

theorem ReadsAs.enclosed {strength' : Nat} {needed : Bool} (h : ReadsAs words strength e)
    (hneeded : needed = false → strength' ≤ strength) : ReadsAs (enclosed needed words) strength' e := by
  intro frames hholds
  cases needed with
  | false =>
    obtain ⟨p, hleads, e', hoperand, hsum, hproduct⟩ := h frames (holdsExpr_mono hholds (hneeded rfl))
    exact ⟨p, hleads, e', hoperand, hsum, fun hle => hproduct (Nat.le_trans hle (hneeded rfl))⟩
  | true =>
    -- the frame of the parentheses depends on what may stand here, but not what it closes to
    have hframe : ∃ frame, (frame = .open ∨ frame = .group) ∧
        (⟨frames, .begin⟩ : Partial).read .leftParen "(" = some ⟨frame :: frames, .begin⟩ := by
      cases hpredicate : holdsPredicate frames with
      | true => exact ⟨.open, .inl rfl, by simp [Partial.read, readBegin, hpredicate]⟩
      | false => exact ⟨.group, .inr rfl, by simp [Partial.read, readBegin, hpredicate]⟩
    obtain ⟨frame, hkind, hopen⟩ := hframe
    have hinner : ∀ strength, holdsExpr (frame :: frames) strength := by
      intro strength
      rcases hkind with rfl | rfl
      · trivial
      · trivial
    obtain ⟨p, hleads, hends⟩ := h (frame :: frames) (hinner strength)
    have hclose : p.read .rightParen ")" = some ⟨frames, .operand e⟩ := by
      rw [hends.read (hinner 0) (by decide) (by decide) (by decide)]
      rcases hkind with rfl | rfl
      · rfl
      · rfl
    exact ⟨_, .parentheses hopen hleads hclose, .operand frames e⟩

/-- The frame in which an operator waits for its right side. -/
def operatorFrame (op : Arithmetic) (left : Expr) : Frame :=
  if op.strength = 0 then .sum op left else .product op left

theorem Ends.read_arithmetic {op : Arithmetic} (h : Ends p op.strength frames e)
    (hholds : holdsExpr frames op.strength) :
    p.read op.terminal text = some ⟨operatorFrame op e :: frames, .begin⟩ := by
  obtain ⟨e', hoperand, hsum, hproduct⟩ := h
  rw [read_of_operand? hoperand (by cases op <;> decide) (by cases op <;> decide)]
  cases op with
  | add | sub => simp [readOperand, productOperator?, sumOperator?, Arithmetic.terminal, hsum,
      closeSum_of_holdsExpr hholds, operatorFrame, Arithmetic.strength]
  | mul | div | mod => simp [readOperand, productOperator?, Arithmetic.terminal, hproduct (Nat.le_refl 1),
      closeProduct_of_holdsExpr hholds, operatorFrame, Arithmetic.strength]

theorem ReadsAs.binary {op : Arithmetic} {e' : Expr} (hleft : ReadsAs left op.strength e)
    (hright : ReadsAs right (op.strength + 1) e') :
    ReadsAs (joined left (symbol op.terminal op.symbol) right) op.strength (.binary op e e') := by
  intro frames hholds
  obtain ⟨p, hleads, hends⟩ := hleft frames hholds
  have hframe : holdsExpr (operatorFrame op e :: frames) (op.strength + 1) := by
    cases op
    all_goals exact Nat.le_refl _
  obtain ⟨q, hleads', e'', hoperand, hsum, hproduct⟩ := hright _ hframe
  have hread : p.read op.terminal op.symbol = some ⟨operatorFrame op e :: frames, .begin⟩ :=
    hends.read_arithmetic hholds
  have hoperator := Leads.symbol (by cases op <;> decide) hread hleads'.blank
  refine ⟨q, hleads.append hoperator.blank, e'', hoperand, ?_, fun hle => ?_⟩
  · rw [hsum]
    cases op
    all_goals rfl
  · rw [hproduct (by omega)]
    cases op
    all_goals first | rfl | cases hle

theorem ReadsAs.literal (value : Literal) : ReadsAs value.words strength (.literal value) := by
  intro frames _
  cases value with
  | number text =>
    rw [Literal.words]
    split
    · -- the sign waits for the digits, and goes into the number when its frame is closed
      rename_i digits heq
      have hsign : negate (.literal (.number (String.ofList digits))) = .literal (.number text) := by
        have htext : String.ofList ('-' :: digits) = text := by rw [← heq, String.ofList_toList]
        rw [negate, ← htext, String.ofList_cons]
        rfl
      refine ⟨⟨.negation :: frames, .operand (.literal (.number (String.ofList digits)))⟩,
        .piece rfl (.piece ?_ .nil), _, rfl, ?_, fun _ => ?_⟩
      · rw [reading_of_ne_string (by decide)]
        rfl
      · rw [closeSum, hsign]
      · rw [closeProduct, hsign]
    · refine ⟨_, .piece ?_ .nil, .operand frames _⟩
      rw [reading_of_ne_string (by decide), String.ofList_toList]
      rfl
  | string text =>
    refine ⟨_, .piece ?_ .nil, .operand frames _⟩
    rw [reading_quoteChars, String.ofList_toList]
    rfl
  | bool b =>
    cases b
    · exact ⟨_, .symbol (t := .false) (by decide) rfl .nil, .operand frames _⟩
    · exact ⟨_, .symbol (t := .true) (by decide) rfl .nil, .operand frames _⟩
  | null => exact ⟨_, .symbol (t := .null) (by decide) rfl .nil, .operand frames _⟩

/-- After the parenthesis of a call, its first argument is read as any other. -/
theorem Leads.call {function : String} (h : Leads ⟨.args function [] :: frames, .begin⟩ words q)
    (hne : readingsOf words ≠ []) :
    Leads ⟨frames, .call function⟩ words q := by
  unfold Leads at *
  cases hreadings : readingsOf words with
  | nil => exact absurd hreadings hne
  | cons reading readings =>
    obtain ⟨t, text⟩ := reading
    rw [hreadings] at h
    obtain ⟨p, hread, hrest⟩ := Option.bind_eq_some_iff.1 h
    refine Option.bind_eq_some_iff.2 ⟨p, ?_, hrest⟩
    have ht : t ≠ .rightParen := by
      rintro rfl
      cases hread
    simpa [Partial.read, ht] using hread

/-- Expressions between commas are collected one after the other, up to the parenthesis that closes their list. -/
theorem Leads.list (hold : List Expr → Frame) (finish : List Expr → Partial)
    (hholds : ∀ done, holdsExpr (hold done :: frames) 0)
    (hcomma : ∀ done e, readAfterSum (hold done :: frames) e .comma = some ⟨hold (done ++ [e]) :: frames, .begin⟩)
    (hclose : ∀ done e, readAfterSum (hold done :: frames) e .rightParen = some (finish (done ++ [e])))
    (es : List Expr) (hne : es ≠ []) (h : ∀ e ∈ es, ReadsAs e.words e.strength e) (done : List Expr) :
    Leads ⟨hold done :: frames, .begin⟩ (listWords es ++ [mark .rightParen ')']) (finish (done ++ es)) := by
  induction es generalizing done with
  | nil => exact absurd rfl hne
  | cons e es ih =>
    rw [List.forall_mem_cons] at h
    obtain ⟨p, hleads, hends⟩ := h.1 _ (holdsExpr_mono (hholds done) (Nat.zero_le _))
    have hread : ∀ {t text}, productOperator? t = none ∧ sumOperator? t = none → t ≠ .leftParen → t ≠ .dot →
        p.read t text = readAfterSum (hold done :: frames) e t := hends.read (hholds done)
    cases es with
    | nil =>
      rw [listWords]
      refine hleads.append (.piece ?_ .nil)
      rw [hread (by decide) (by decide) (by decide)]
      exact hclose done e
    | cons e' es =>
      have htail := ih (by simp) h.2 (done ++ [e])
      rw [List.append_assoc, List.singleton_append] at htail
      rw [listWords, List.append_assoc]
      refine hleads.append (.piece ?_ htail.blank)
      rw [hread (by decide) (by decide) (by decide)]
      exact hcomma done e

theorem ReadsAs.call {function : String} {args : List Expr} (hupper : upper function = function)
    (h : ∀ e ∈ args, ReadsAs e.words e.strength e) :
    ReadsAs (nameWord function :: mark .leftParen '(' :: (listWords args ++ [mark .rightParen ')'])) strength
      (.call function args) := by
  intro frames _
  have hcall : (⟨frames, .name function⟩ : Partial).read .leftParen "(" = some ⟨frames, .call function⟩ := by
    exact congrArg (fun f => some (⟨frames, .call f⟩ : Partial)) hupper
  have hlist : Leads ⟨frames, .call function⟩ (listWords args ++ [mark .rightParen ')'])
      ⟨frames, .operand (.call function args)⟩ := by
    cases args with
    | nil =>
      have hclose : (⟨frames, .call function⟩ : Partial).read .rightParen ")"
          = some ⟨frames, .operand (.call function [])⟩ := rfl
      exact .symbol (by decide) hclose .nil
    | cons e es =>
      have hargs : Leads ⟨.args function [] :: frames, .begin⟩ (listWords (e :: es) ++ [mark .rightParen ')'])
          ⟨frames, .operand (.call function (e :: es))⟩ :=
        Leads.list (.args function) (fun args => ⟨frames, .operand (.call function args)⟩) (fun _ => trivial)
          (fun _ _ => rfl) (fun _ _ => rfl) (e :: es) (by simp) h []
      exact hargs.call (by simp [readingsOf, piecesOf, Word.piece?, mark])
  exact ⟨_, .symbol (by decide) rfl (.symbol (by decide) hcall hlist), .operand frames _⟩

end Condition

open Condition

mutual

/-- The words of an expression are read as the expression. -/
theorem Expr.readsAs : (e : Expr) → e.Writable → ReadsAs e.words e.strength e
  | .column none name, _ => by
    rw [Expr.words]
    exact fun frames _ => ⟨⟨frames, .name name⟩, .symbol (by decide) rfl .nil, _, rfl, rfl, fun _ => rfl⟩
  | .column (some table) name, _ => by
    rw [Expr.words]
    intro frames _
    have hdot : (⟨frames, .name table⟩ : Partial).read .dot "." = some ⟨frames, .qualifier table⟩ := rfl
    exact ⟨_, .symbol (by decide) rfl (.symbol (by decide) hdot (.symbol (by decide) rfl .nil)), .operand frames _⟩
  | .literal value, _ => by
    rw [Expr.words]
    exact ReadsAs.literal value
  | .call function args, h => by
    rw [Expr.Writable] at h
    rw [Expr.words]
    exact ReadsAs.call h.2.1 (allReadsAs args h.2.2)
  | .binary op left right, h => by
    rw [Expr.Writable] at h
    rw [Expr.words]
    refine ReadsAs.binary ((left.readsAs h.1).enclosed ?_) ((right.readsAs h.2).enclosed ?_)
    · exact fun hneeded => Nat.le_of_not_lt (of_decide_eq_false hneeded)
    · exact fun hneeded => Nat.lt_of_not_le (of_decide_eq_false hneeded)

theorem allReadsAs : (es : List Expr) → AllWritable es → ∀ e ∈ es, ReadsAs e.words e.strength e
  | [], _ => by simp
  | e :: es, h => by
    rw [AllWritable] at h
    rw [List.forall_mem_cons]
    exact ⟨e.readsAs h.1, allReadsAs es h.2⟩

end

namespace Condition

variable {p q r : Partial} {t : Terminal} {text : String} {words left right : List Word} {frames : List Frame}
  {e : Expr} {c : Condition} {strength : Nat}

/-! ## Conditions -/

/-- What is read ends with a condition, whose frames close as those around `c` do. -/
def EndsCondition (p : Partial) (strength : Nat) (frames : List Frame) (c : Condition) : Prop :=
  ∃ frames' c', p.condition? p.operand? = some (frames', c') ∧ closeOr frames' c' = closeOr frames c ∧
    (1 ≤ strength → closeAnd frames' c' = closeAnd frames c)

/-- Words are read as a condition wherever a condition of a strength may stand. -/
def ReadsAsCondition (words : List Word) (strength : Nat) (c : Condition) : Prop :=
  ∀ frames, holdsPredicate frames = true → holdsCondition frames strength →
    ∃ p, Leads ⟨frames, .begin⟩ words p ∧ EndsCondition p strength frames c

theorem EndsCondition.closed (frames : List Frame) (c : Condition) :
    EndsCondition ⟨frames, .closed c⟩ strength frames c :=
  ⟨frames, c, rfl, rfl, fun _ => rfl⟩

/-- A connective or a closing parenthesis ends the predicate before it. -/
theorem read_of_condition? (h : p.condition? p.operand? = some (frames, c))
    (ht : t = .and ∨ t = .or ∨ t = .rightParen) :
    p.read t text = readConnective frames c t := by
  cases hoperand : p.operand? with
  | none =>
    rw [hoperand, Partial.condition?] at h
    obtain ⟨frames', focus⟩ := p
    cases focus with
    | closed c' =>
      cases h
      rfl
    | _ => cases h
  | some e =>
    have hafter : p.read t text = readAfterSum (closeSum p.frames e).1 (closeSum p.frames e).2 t := by
      rcases ht with rfl | rfl | rfl
      all_goals exact read_of_operand? hoperand (by decide) (by decide)
    rw [hoperand, Partial.condition?] at h
    rw [hafter]
    split at h
    · rename_i op left frames' right hclose
      cases h
      rw [hclose]
      rcases ht with rfl | rfl | rfl
      all_goals simp [readAfterSum, readEnd, readPredicate, holdsPredicate]
    · rename_i negated left frames' pattern hclose
      cases h
      rw [hclose]
      rcases ht with rfl | rfl | rfl
      all_goals simp [readAfterSum, readEnd, readPredicate, holdsPredicate]
    · cases h

theorem ReadsAsCondition.enclosed {strength' : Nat} {needed : Bool} (h : ReadsAsCondition words strength c)
    (hneeded : needed = false → strength' ≤ strength) : ReadsAsCondition (enclosed needed words) strength' c := by
  intro frames hframes hholds
  cases needed with
  | false =>
    obtain ⟨p, hleads, frames', c', hcondition, hor, hand⟩ :=
      h frames hframes (holdsCondition_mono hholds (hneeded rfl))
    exact ⟨p, hleads, frames', c', hcondition, hor, fun hle => hand (Nat.le_trans hle (hneeded rfl))⟩
  | true =>
    have hopen : (⟨frames, .begin⟩ : Partial).read .leftParen "(" = some ⟨.open :: frames, .begin⟩ := by
      simp [Partial.read, readBegin, hframes]
    obtain ⟨p, hleads, frames', c', hcondition, hor, -⟩ := h (.open :: frames) rfl trivial
    have hclose : p.read .rightParen ")" = some ⟨frames, .closed c⟩ := by
      rw [read_of_condition? hcondition (.inr (.inr rfl)), readConnective, hor]
      rfl
    exact ⟨_, .parentheses hopen hleads hclose, .closed frames c⟩

/-- The frame in which a connective waits for its right side. -/
def connectiveFrame : Connective → Condition → Frame
  | .and, left => .and left
  | .or, left => .or left

theorem EndsCondition.read_connective {op : Connective} (h : EndsCondition p op.strength frames c)
    (hholds : holdsCondition frames op.strength) :
    p.read op.terminal text = some ⟨connectiveFrame op c :: frames, .begin⟩ := by
  obtain ⟨frames', c', hcondition, hor, hand⟩ := h
  cases op with
  | and =>
    rw [Connective.terminal, read_of_condition? hcondition (.inl rfl), readConnective, hand (Nat.le_refl 1),
      closeAnd_of_holdsCondition hholds]
    rfl
  | or =>
    rw [Connective.terminal, read_of_condition? hcondition (.inr (.inl rfl)), readConnective, hor,
      closeOr_of_holdsCondition hholds]
    rfl

theorem ReadsAsCondition.logic {op : Connective} {c' : Condition} (hleft : ReadsAsCondition left op.strength c)
    (hright : ReadsAsCondition right (op.strength + 1) c') :
    ReadsAsCondition (joined left (symbol op.terminal op.symbol) right) op.strength (.logic op c c') := by
  intro frames hframes hholds
  obtain ⟨p, hleads, hends⟩ := hleft frames hframes hholds
  have hframe : holdsPredicate (connectiveFrame op c :: frames) = true ∧
      holdsCondition (connectiveFrame op c :: frames) (op.strength + 1) := by
    cases op
    all_goals exact ⟨rfl, Nat.le_refl _⟩
  obtain ⟨q, hleads', frames', c'', hcondition, hor, hand⟩ := hright _ hframe.1 hframe.2
  have hread : p.read op.terminal op.symbol = some ⟨connectiveFrame op c :: frames, .begin⟩ :=
    hends.read_connective hholds
  have hoperator := Leads.symbol (by cases op <;> decide) hread hleads'.blank
  refine ⟨q, hleads.append hoperator.blank, frames', c'', hcondition, ?_, fun hle => ?_⟩
  · rw [hor]
    cases op
    all_goals rfl
  · rw [hand (by omega)]
    cases op with
    | and => rfl
    | or => cases hle

theorem ReadsAsCondition.not (h : ReadsAsCondition words 2 c) :
    ReadsAsCondition (symbol .not "NOT" :: .blank :: words) strength (.not c) := by
  intro frames hframes _
  obtain ⟨p, hleads, frames', c', hcondition, hor, hand⟩ := h (.not :: frames) rfl (Nat.le_refl 2)
  have hread : (⟨frames, .begin⟩ : Partial).read .not "NOT" = some ⟨.not :: frames, .begin⟩ := by
    simp [Partial.read, readBegin, hframes]
  refine ⟨p, .symbol (by decide) hread hleads.blank, frames', c', hcondition, ?_, fun _ => ?_⟩
  · rw [hor, closeOr]
  · rw [hand (by decide), closeAnd]

/-! ## Predicates -/

/-- The terminals that follow the left side of a predicate. -/
def predicateTerminals : List Terminal :=
  [.equal, .notEqual, .lessThan, .moreThan, .lessEqual, .moreEqual, .like, .is, .in, .not]

/-- An expression is read as a whole where one may stand. -/
theorem exists_leads_whole (h : e.Writable) (hholds : holdsExpr frames 0) :
    ∃ p, Leads ⟨frames, .begin⟩ e.words p ∧ Ends p 0 frames e := by
  obtain ⟨p, hleads, e', hoperand, hsum, -⟩ := e.readsAs h frames (holdsExpr_mono hholds (Nat.zero_le _))
  exact ⟨p, hleads, e', hoperand, hsum, fun hle => absurd hle (by decide)⟩

/-- Where a predicate may stand, an expression is its left side. -/
theorem exists_leads_left (h : e.Writable) (hframes : holdsPredicate frames = true) :
    ∃ p, Leads ⟨frames, .begin⟩ e.words p ∧
      ∀ {t text}, t ∈ predicateTerminals → p.read t text = readPredicate frames e t := by
  have hholds := holdsExpr_of_holdsPredicate hframes
  obtain ⟨p, hleads, hends⟩ := exists_leads_whole h hholds
  refine ⟨p, hleads, fun {t text} ht => ?_⟩
  have hterminals : ∀ t ∈ predicateTerminals, (productOperator? t = none ∧ sumOperator? t = none) ∧ t ≠ .leftParen ∧
      t ≠ .dot ∧ t ≠ .comma ∧ t ≠ .rightParen := by
    decide
  obtain ⟨hoperator, hparen, hdot, hcomma, hclose⟩ := hterminals t ht
  have hend : readEnd frames e t = none := by
    unfold readEnd
    split
    · cases hframes
    · cases hframes
    · rfl
  rw [hends.read hholds hoperator hparen hdot]
  unfold readAfterSum
  split
  case h_7 => rw [hend, Option.none_or]
  all_goals first | exact absurd rfl hcomma | exact absurd rfl hclose

/-- The right side of a predicate ends it. -/
theorem exists_leads_right (frame : Frame) (h : e.Writable)
    (hframe : (∃ op left, frame = .compare op left ∧ c = .compare op left e) ∨
      ∃ negated left, frame = .like negated left ∧ c = .like negated left e) :
    ∃ p, Leads ⟨frame :: frames, .begin⟩ e.words p ∧ EndsCondition p strength frames c := by
  have hholds : holdsExpr (frame :: frames) 0 := by
    rcases hframe with ⟨op, left, rfl, -⟩ | ⟨negated, left, rfl, -⟩
    · trivial
    · trivial
  obtain ⟨p, hleads, e', hoperand, hsum, -⟩ := exists_leads_whole h hholds
  rw [closeSum_of_holdsExpr hholds] at hsum
  have hcondition : p.condition? p.operand? = some (frames, c) := by
    rw [hoperand, Partial.condition?, hsum]
    rcases hframe with ⟨op, left, rfl, rfl⟩ | ⟨negated, left, rfl, rfl⟩
    · rfl
    · rfl
  exact ⟨p, hleads, frames, c, hcondition, rfl, fun _ => rfl⟩

/-- After the left side of a predicate, a negation and its operator are read. -/
theorem leads_negation {negated : Bool} (hframes : holdsPredicate frames = true)
    (hp : ∀ {t text}, t ∈ predicateTerminals → p.read t text = readPredicate frames e t) (ht : t ≠ .string)
    (hmem : t ∈ predicateTerminals) (hplain : negated = false → readPredicate frames e t = some q)
    (hnegated : negated = true → (⟨frames, .not e⟩ : Partial).read t text = some q) (h : Leads q words r) :
    Leads p (negation negated ++ symbol t text :: words) r := by
  cases negated with
  | false => exact .symbol ht ((hp hmem).trans (hplain rfl)) h
  | true =>
    have hnot : p.read .not "NOT" = some ⟨frames, .not e⟩ := by
      rw [hp (by decide), readPredicate, if_pos hframes]
      rfl
    exact .symbol (by decide) hnot (Leads.blank (.symbol ht (hnegated rfl) h))

/-- The words of a condition are read as the condition. -/
theorem readsAs (c : Condition) (h : c.Writable) : ReadsAsCondition c.words c.strength c := by
  induction c with
  | logic op left right ihleft ihright =>
    refine ReadsAsCondition.logic ((ihleft h.1).enclosed ?_) ((ihright h.2).enclosed ?_)
    · exact fun hneeded => Nat.le_of_not_lt (of_decide_eq_false hneeded)
    · exact fun hneeded => Nat.lt_of_not_le (of_decide_eq_false hneeded)
  | not operand ih =>
    exact ReadsAsCondition.not ((ih h).enclosed fun hneeded => Nat.le_of_not_lt (of_decide_eq_false hneeded))
  | compare op left right =>
    intro frames hframes _
    obtain ⟨p, hleads, hp⟩ := exists_leads_left h.1 hframes
    obtain ⟨q, hleads', hends⟩ := exists_leads_right (.compare op left) h.2 (.inl ⟨op, left, rfl, rfl⟩)
    have hread : p.read op.terminal op.symbol = some ⟨.compare op left :: frames, .begin⟩ := by
      have hop : comparison? op.terminal = some op := by cases op <;> rfl
      rw [hp (by cases op <;> decide)]
      simp [readPredicate, hframes, hop]
    exact ⟨q, hleads.append (.blank (.symbol (by cases op <;> decide) hread hleads'.blank)), hends⟩
  | isNull negated operand =>
    intro frames hframes _
    obtain ⟨p, hleads, hp⟩ := exists_leads_left h hframes
    have hread : p.read .is "IS" = some ⟨frames, .is operand⟩ := by
      rw [hp (by decide), readPredicate, if_pos hframes]
      rfl
    have hnull : Leads ⟨frames, .is operand⟩ (negation negated ++ [symbol .null "NULL"])
        ⟨frames, .closed (.isNull negated operand)⟩ := by
      cases negated with
      | false => exact .symbol (by decide) rfl .nil
      | true => exact .symbol (by decide) rfl (.blank (.symbol (by decide) rfl .nil))
    exact ⟨_, hleads.append (.blank (.symbol (by decide) hread hnull.blank)), .closed frames _⟩
  | inList negated operand items =>
    intro frames hframes _
    obtain ⟨hoperand, hne, hitems⟩ := h
    obtain ⟨p, hleads, hp⟩ := exists_leads_left hoperand hframes
    have hlist : Leads ⟨.items negated operand [] :: frames, .begin⟩ (listWords items ++ [mark .rightParen ')'])
        ⟨frames, .closed (.inList negated operand items)⟩ :=
      Leads.list (.items negated operand) (fun items => ⟨frames, .closed (.inList negated operand items)⟩)
        (fun _ => trivial) (fun _ _ => rfl) (fun _ _ => rfl) items hne (allReadsAs items hitems) []
    have hparen : (⟨frames, .in negated operand⟩ : Partial).read .leftParen "("
        = some ⟨.items negated operand [] :: frames, .begin⟩ := rfl
    have hopen : Leads ⟨frames, .in negated operand⟩
        (mark .leftParen '(' :: (listWords items ++ [mark .rightParen ')']))
        ⟨frames, .closed (.inList negated operand items)⟩ :=
      .symbol (by decide) hparen hlist
    refine ⟨_, hleads.append (.blank (leads_negation (q := ⟨frames, .in negated operand⟩) hframes hp (by decide)
      (by decide) ?_ ?_ hopen.blank)), .closed frames _⟩
    · rintro rfl
      rw [readPredicate, if_pos hframes]
      rfl
    · rintro rfl
      rfl
  | like negated operand pattern =>
    intro frames hframes _
    obtain ⟨p, hleads, hp⟩ := exists_leads_left h.1 hframes
    obtain ⟨q, hleads', hends⟩ := exists_leads_right (.like negated operand) h.2
      (.inr ⟨negated, operand, rfl, rfl⟩)
    refine ⟨q, hleads.append (.blank (leads_negation hframes hp (by decide) (by decide) ?_ ?_ hleads'.blank)), hends⟩
    · rintro rfl
      rw [readPredicate, if_pos hframes]
      rfl
    · rintro rfl
      rfl

/-! ## Round trip -/

/-- A condition that can be written is read back from its text. -/
theorem compile_print {c : Condition} (h : c.Writable) : compile c.print = .ok c := by
  obtain ⟨p, hleads, frames, c', hcondition, hor, -⟩ := c.readsAs h [] rfl (by trivial)
  refine compile_eq_ok.2 ⟨_, p, cut_print h, hleads, ?_⟩
  rw [Partial.finish?, hcondition]
  simp only [hor]
  rfl

/-- Every kind of parenthesis, a sign, an exponent and an escaped quote. -/
def grouped : Condition :=
  .logic .and
    (.not (.logic .or
      (.compare .ge
        (.binary .mul (.binary .add (.column none "a") (.literal (.number "2"))) (.call "F" [.column none "b"]))
        (.literal (.number "-1.5e3")))
      (.like true (.column (some "t") "c") (.literal (.string "it's")))))
    (.inList false (.binary .sub (.column none "a") (.binary .sub (.column none "b") (.literal (.number "1"))))
      [.literal .null, .literal (.bool true)])

theorem compile_print_grouped :
    grouped.print = "NOT ((a + 2) * F(b) >= -1.5e3 OR t.c NOT LIKE 'it\\'s') AND a - (b - 1) IN (NULL, TRUE)" ∧
      compile grouped.print = .ok grouped := by
  have hname : ∀ name ∈ ["a", "b", "c", "t", "F"], IsName name := by
    simp only [List.forall_mem_cons]
    refine ⟨?_, ?_, ?_, ?_, ?_, by simp⟩
    all_goals exact ⟨_, _, rfl, by decide, List.all_eq_true.1 (by decide), by decide⟩
  have hnumber : Literal.Writable (.number "-1.5e3") ∧ Literal.Writable (.number "1") ∧
      Literal.Writable (.number "2") :=
    ⟨.inr ⟨_, rfl, rfl⟩, .inl rfl, .inl rfl⟩
  have hstring : Literal.Writable (.string "it's") := by
    rw [Literal.Writable]
    decide
  have hword : Literal.Writable .null ∧ Literal.Writable (.bool true) := ⟨trivial, trivial⟩
  have hupper : upper "F" = "F" := by decide
  refine ⟨by decide, compile_print ?_⟩
  simp [grouped, Writable, Expr.Writable, AllWritable, hname, hnumber, hstring, hword, hupper]

end Condition

end Relational
