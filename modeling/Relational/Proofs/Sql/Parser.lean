import Relational.Proofs.Failure
import Relational.Sql.Parser

/-!
# How statements are read

The parser of each part of a statement is orderly: it fails with a syntax error or not at all, and it leaves the token
that marks the end. The one exception is the number of LIMIT.
-/

namespace Relational

/-- A token stands where another was expected. -/
def Failure.IsSyntaxError (failure : Failure) : Prop :=
  ∃ cause, failure = .refusal (.syntaxError cause)

namespace Sql.Parser

variable {α β : Type} {p q : Parser α}

/-! ## Orderly parsers -/

/-- A parser that fails only with a syntax error and leaves the token that marks the end. -/
structure Orderly (p : Parser α) : Prop where
  failsOnly : ∀ input, FailsOnly Failure.IsSyntaxError (p.run input)
  finish_eq : ∀ {input a rest}, p.run input = .ok (a, rest) → rest.finish = input.finish

namespace Orderly

theorem pure (a : α) : Orderly (Pure.pure a) where
  failsOnly _ := .ok _
  finish_eq h := by
    cases h
    rfl

theorem bind {f : α → Parser β} (hp : Orderly p) (hf : ∀ a, Orderly (f a)) : Orderly (p >>= f) where
  failsOnly input := (hp.failsOnly input).bind fun found _ => (hf found.1).failsOnly found.2
  finish_eq h := by
    obtain ⟨⟨a, between⟩, hfirst, hsecond⟩ := bind_eq_ok.1 h
    exact ((hf a).finish_eq hsecond).trans (hp.finish_eq hfirst)

theorem map (hp : Orderly p) (g : α → β) : Orderly (g <$> p) := by
  rw [map_eq_pure_bind]
  exact hp.bind fun a => .pure (g a)

theorem ite {c : Prop} [Decidable c] (hp : Orderly p) (hq : Orderly q) : Orderly (if c then p else q) := by
  split
  · exact hp
  · exact hq

/-- One of two parsers, and what follows both. -/
theorem either {c : Prop} [Decidable c] {f : α → Parser β} (hp : Orderly p) (hq : Orderly q)
    (hf : ∀ a, Orderly (f a)) : Orderly (if c then p >>= f else q >>= f) :=
  (hp.bind hf).ite (hq.bind hf)

theorem get : Orderly (MonadState.get : Parser Input) where
  failsOnly _ := .ok _
  finish_eq h := by
    cases h
    rfl

theorem setTokens (tokens : Input → List Token) :
    Orderly (modify fun input => { input with tokens := tokens input } : Parser Unit) where
  failsOnly _ := .ok _
  finish_eq h := by
    cases h
    rfl

theorem current : Orderly current :=
  get.bind fun _ => .pure _

theorem mismatch (expected : String) : Orderly (mismatch expected : Parser α) :=
  current.bind fun _ => ⟨fun _ => .error ⟨_, rfl⟩, fun h => by cases h⟩

/-- A parser that goes on unless something is wrong. -/
theorem guard {c : Prop} [Decidable c] (expected : String) (hp : Orderly p) :
    Orderly (if c then (Parser.mismatch expected : Parser Unit) >>= fun _ => p else p) :=
  ((mismatch expected).bind fun _ => hp).ite hp

/-! ## Tokens -/

theorem advance : Orderly advance :=
  current.bind fun _ => (setTokens _).bind fun _ => .pure _

theorem sees (test : TokenKind → Bool) : Orderly (sees test) :=
  current.bind fun _ => .pure _

theorem takes (kind : TokenKind) : Orderly (takes kind) :=
  (sees _).bind fun _ => .ite (advance.bind fun _ => .pure _) (.pure _)

theorem takesWord (word : Keyword) : Orderly (takesWord word) :=
  takes _

theorem expect (kind : TokenKind) : Orderly (expect kind) :=
  (takes kind).bind fun _ => .ite (.pure _) (mismatch _)

theorem expectWord (word : Keyword) : Orderly (expectWord word) :=
  expect _

theorem name : Orderly name :=
  (sees _).bind fun _ => .ite (advance.bind fun _ => .pure _) (mismatch _)

theorem seesNegativeNumber : Orderly seesNegativeNumber :=
  get.bind fun input => by
    split
    · exact .pure true
    · exact .pure false

theorem seesIdentifier (capital : String) : Orderly (seesIdentifier capital) :=
  current.bind fun _ => .pure _

/-! ## Lists -/

theorem moreItems (hp : Orderly p) (fuel : Nat) : Orderly (moreItems p fuel) := by
  induction fuel with
  | zero => exact .pure []
  | succ fuel ih => exact (takes _).bind fun _ => .ite (hp.bind fun _ => ih.bind fun _ => .pure _) (.pure _)

theorem items (hp : Orderly p) : Orderly (items p) :=
  hp.bind fun _ => get.bind fun _ => (hp.moreItems _).bind fun _ => .pure _

theorem parenthesized (hp : Orderly p) : Orderly (parenthesized p) :=
  (expect _).bind fun _ => hp.items.bind fun _ => (expect _).bind fun _ => .pure _

theorem names : Orderly names :=
  name.parenthesized

/-! ## Clauses kept as text -/

theorem clauseTexts (what : String) (stop : TokenKind → Bool) : Orderly (clauseTexts what stop) :=
  get.bind fun _ => (setTokens _).bind fun _ => .guard what (.pure _)

theorem clause (stop : TokenKind → Bool) : Orderly (clause stop) :=
  (clauseTexts _ stop).bind fun _ => .pure _

theorem parenthesizedText (what : String) : Orderly (parenthesizedText what) :=
  (expect _).bind fun _ => (clauseTexts _ _).bind fun _ => get.bind fun _ =>
    .guard _ (.guard _ (advance.bind fun _ => .pure _))

theorem whereClause (stop : TokenKind → Bool) : Orderly (whereClause stop) :=
  (takesWord _).bind fun _ => .ite ((clause _).bind fun _ => .guard _ (.pure _)) (.pure _)

/-! ## Expressions -/

theorem afterName {expression : Parser Expr} (h : Orderly expression) (first : String) :
    Orderly (afterName expression first) :=
  (takes _).bind fun _ => .ite
    ((sees _).bind fun _ => .either (.pure _) h.items fun _ => (expect _).bind fun _ => .pure _)
    ((takes _).bind fun _ => .ite (name.bind fun _ => .pure _) (.pure _))

theorem primary {expression : Parser Expr} (h : Orderly expression) : Orderly (primary expression) := by
  refine seesNegativeNumber.bind fun _ => .ite (advance.bind fun _ => advance.bind fun _ => .pure _) ?_
  refine current.bind fun token => ?_
  split
  · exact advance.bind fun _ => .pure _
  · exact advance.bind fun _ => .pure _
  · exact advance.bind fun _ => .pure _
  · exact advance.bind fun _ => .pure _
  · exact advance.bind fun _ => .pure _
  · exact advance.bind fun _ => h.bind fun _ => (expect _).bind fun _ => .pure _
  · exact .ite (name.bind fun _ => h.afterName _) (mismatch _)

theorem expressionWithin (fuel : Nat) : Orderly (expressionWithin fuel) := by
  induction fuel with
  | zero => exact mismatch _
  | succ fuel ih =>
    refine ih.primary.bind fun left => current.bind fun token => ?_
    split
    · exact .pure left
    · exact advance.bind fun _ => ih.bind fun _ => .pure _

theorem expression : Orderly expression :=
  get.bind fun _ => expressionWithin _

/-! ## Queries -/

theorem orderKey : Orderly orderKey := by
  refine name.bind fun _ => (takesWord _).bind fun _ => .ite (.pure _) ?_
  exact (takesWord _).bind fun _ => .ite (.pure _) (.pure _)

theorem orderClause : Orderly orderClause :=
  (takesWord _).bind fun _ => .ite ((expectWord _).bind fun _ => orderKey.items.bind fun _ => .pure _) (.pure _)

theorem query : Orderly query :=
  (expectWord _).bind fun _ => (takes _).bind fun _ => .either (.pure _) (name.items.map _) fun _ =>
    (expectWord _).bind fun _ => name.bind fun _ => (sees _).bind fun _ => .either ((clause _).map _) (.pure _) fun _ =>
      (whereClause _).bind fun _ => orderClause.bind fun _ => .pure _

/-! ## Changes -/

theorem insert : Orderly insert :=
  (expectWord _).bind fun _ => (expectWord _).bind fun _ => name.bind fun _ => (sees _).bind fun _ =>
    .either (names.map _) (.pure _) fun _ => (expectWord _).bind fun _ => expression.parenthesized.items.bind fun _ =>
      .pure _

theorem assignment : Orderly assignment :=
  name.bind fun _ => (expect _).bind fun _ => expression.bind fun _ => .pure _

theorem update : Orderly update :=
  (expectWord _).bind fun _ => name.bind fun _ => (expectWord _).bind fun _ => assignment.items.bind fun _ =>
    (whereClause _).bind fun _ => .pure _

theorem delete : Orderly delete :=
  (expectWord _).bind fun _ => (expectWord _).bind fun _ => name.bind fun _ => (whereClause _).bind fun _ => .pure _

/-! ## Definitions -/

theorem createIndex : Orderly createIndex :=
  (takesWord _).bind fun _ => (expectWord _).bind fun _ => name.bind fun _ => (expectWord _).bind fun _ =>
    name.bind fun _ => names.bind fun _ => .pure _

theorem typeParam : Orderly typeParam :=
  (sees _).bind fun _ => .ite (advance.bind fun _ => .pure _) (mismatch _)

theorem referentialAction : Orderly referentialAction := by
  have hset : Orderly (do if ← Parser.takesWord .NULL then Pure.pure "SET NULL" else do
      Parser.expectWord .DEFAULT
      Pure.pure "SET DEFAULT") :=
    (takesWord _).bind fun _ => .ite (.pure _) ((expectWord _).bind fun _ => .pure _)
  have hno : Orderly (do
      let _ ← Parser.advance
      if ← Parser.seesIdentifier "ACTION" then
        let _ ← Parser.advance
        Pure.pure "NO ACTION"
      else Parser.mismatch "referential action") :=
    advance.bind fun _ => (seesIdentifier _).bind fun _ => .ite (advance.bind fun _ => .pure _) (mismatch _)
  exact (takesWord _).bind fun _ => .ite (.pure _) <| (takesWord _).bind fun _ => .ite (.pure _) <|
    (takesWord _).bind fun _ => .ite hset <| (seesIdentifier _).bind fun _ => .ite hno (mismatch _)

theorem referentialActions (fuel : Nat) (fk : Reference) : Orderly (referentialActions fuel fk) := by
  induction fuel generalizing fk with
  | zero => exact .pure fk
  | succ fuel ih =>
    exact (takesWord _).bind fun _ => .ite
      ((takesWord _).bind fun _ => .ite (referentialAction.bind fun _ => ih _) <|
        (takesWord _).bind fun _ => .ite (referentialAction.bind fun _ => ih _) (mismatch _))
      (.pure fk)

theorem reference (constraint : Option String) (columns : List String) : Orderly (reference constraint columns) :=
  name.bind fun _ => (sees _).bind fun _ => .either names (.pure _) fun _ => get.bind fun _ => referentialActions _ _

theorem defaultValue : Orderly defaultValue := by
  refine seesNegativeNumber.bind fun _ => .ite (advance.bind fun _ => advance.bind fun _ => .pure _) ?_
  refine current.bind fun token => ?_
  split
  · exact advance.bind fun _ => .pure _
  · exact advance.bind fun _ => .pure _
  · exact advance.bind fun _ => .pure _
  · exact advance.bind fun _ => .pure _
  · exact advance.bind fun _ => .pure _
  · exact advance.bind fun _ => (takes _).bind fun _ => .ite
      ((clause _).bind fun _ => (expect _).bind fun _ => .pure _) (.pure _)
  · exact mismatch _

theorem columnConstraints (fuel : Nat) (constraint : Option String) (column : ColumnClause) :
    Orderly (columnConstraints fuel constraint column) := by
  induction fuel generalizing constraint column with
  | zero => exact .pure column
  | succ fuel ih =>
    refine (sees _).bind fun _ => .ite (.pure column) ?_
    refine (takesWord _).bind fun _ => .ite ((expectWord _).bind fun _ => ih _ _) ?_
    refine (takesWord _).bind fun _ => .ite ((takesWord _).bind fun _ => ih _ _) ?_
    refine (takesWord _).bind fun _ => .ite ((expectWord _).bind fun _ => ih _ _) ?_
    refine (takesWord _).bind fun _ => .ite (ih _ _) ?_
    refine (takesWord _).bind fun _ => .ite (ih _ _) ?_
    refine (takesWord _).bind fun _ => .ite (defaultValue.bind fun _ => ih _ _) ?_
    refine (takesWord _).bind fun _ => .ite ((parenthesizedText _).bind fun _ => ih _ _) ?_
    refine (takesWord _).bind fun _ => .ite ((reference _ _).bind fun _ => ih _ _) ?_
    exact (takesWord _).bind fun _ => .ite (name.bind fun _ => ih _ _) (mismatch _)

theorem typeName : Orderly typeName :=
  (sees _).bind fun _ => .ite (advance.bind fun _ => .pure _) (mismatch _)

theorem columnClause : Orderly columnClause :=
  name.bind fun _ => typeName.bind fun _ => (sees _).bind fun _ =>
    .either typeParam.parenthesized (.pure _) fun _ => get.bind fun _ => columnConstraints _ _ _

theorem tableConstraint (constraint : Option String) (table : CreateTable) :
    Orderly (tableConstraint constraint table) := by
  refine (takesWord _).bind fun _ => .ite ((expectWord _).bind fun _ => names.bind fun _ => .pure _) ?_
  refine (takesWord _).bind fun _ => .ite ((takesWord _).bind fun _ => names.bind fun _ => .pure _) ?_
  refine (takesWord _).bind fun _ => .ite ((expectWord _).bind fun _ => names.bind fun _ =>
    (expectWord _).bind fun _ => (reference _ _).bind fun _ => .pure _) ?_
  exact (takesWord _).bind fun _ => .ite ((parenthesizedText _).bind fun _ => .pure _) (mismatch _)

theorem tableElement (table : CreateTable) : Orderly (tableElement table) :=
  (sees _).bind fun _ => .ite
    ((takesWord _).bind fun _ => .either (name.map _) (.pure _) fun _ => tableConstraint _ _)
    (columnClause.bind fun _ => .pure _)

theorem moreElements (fuel : Nat) (table : CreateTable) : Orderly (moreElements fuel table) := by
  induction fuel generalizing table with
  | zero => exact .pure table
  | succ fuel ih =>
    exact (takes _).bind fun _ => .ite ((tableElement table).bind fun _ => ih _) (.pure table)

theorem ifNotExists : Orderly ifNotExists :=
  (takesWord _).bind fun _ => .ite ((expectWord _).bind fun _ => (expectWord _).bind fun _ => .pure _) (.pure _)

theorem createTable : Orderly createTable :=
  (expectWord _).bind fun _ => ifNotExists.bind fun _ => name.bind fun _ => (expect _).bind fun _ =>
    (tableElement _).bind fun _ => get.bind fun _ => (moreElements _ _).bind fun _ => (expect _).bind fun _ => .pure _

theorem create : Orderly create :=
  (expectWord _).bind fun _ => (sees _).bind fun _ => .ite (createIndex.map _) (createTable.map _)

theorem alteration : Orderly alteration := by
  refine (takesWord _).bind fun _ => .ite (.pure _) ?_
  refine (takesWord _).bind fun _ => .ite (.pure _) ?_
  exact (takesWord _).bind fun _ => .ite (.pure _) (mismatch _)

theorem alter : Orderly alter :=
  (expectWord _).bind fun _ => (expectWord _).bind fun _ => name.bind fun _ => alteration.bind fun _ =>
    (takesWord _).bind fun _ => name.bind fun _ => (clause _).bind fun _ => .pure _

theorem ifExists : Orderly ifExists :=
  (takesWord _).bind fun _ => .ite ((expectWord _).bind fun _ => .pure _) (.pure _)

theorem drop : Orderly drop :=
  (expectWord _).bind fun _ => (expectWord _).bind fun _ => ifExists.bind fun _ => name.bind fun _ => .pure _

theorem transaction (statement : Statement) : Orderly (transaction statement) :=
  advance.bind fun _ => (takesWord _).bind fun _ => .pure _

end Orderly

end Sql.Parser

end Relational
