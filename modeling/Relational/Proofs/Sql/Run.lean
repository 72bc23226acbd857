import Mathlib.Data.List.TakeWhile
import Relational.Proofs.Sql.Parser

/-!
# Reading tokens

What the parsers of single tokens and of clauses find, and what they leave.
-/

namespace Relational.Sql

namespace Parser

variable {α β : Type} {p : Parser α} {input rest : Input}

/-- The token that is read next. -/
def next (input : Input) : Token :=
  input.tokens.headD input.finish

/-- What is left after that token. -/
def tail (input : Input) : Input :=
  { input with tokens := input.tokens.tail }

theorem run_bind_eq_ok {f : α → Parser β} {b : β} : (p >>= f).run input = .ok (b, rest) ↔
    ∃ a between, p.run input = .ok (a, between) ∧ (f a).run between = .ok (b, rest) := by
  have hrun : (p >>= f).run input = p.run input >>= fun found => (f found.1).run found.2 := rfl
  rw [hrun, bind_eq_ok]
  exact Prod.exists

theorem run_map_eq_ok {f : α → β} {b : β} : (f <$> p).run input = .ok (b, rest) ↔
    ∃ a, p.run input = .ok (a, rest) ∧ f a = b := by
  rw [map_eq_pure_bind, run_bind_eq_ok]
  constructor
  · rintro ⟨a, between, hp, hb⟩
    cases hb
    exact ⟨a, hp, rfl⟩
  · rintro ⟨a, hp, rfl⟩
    exact ⟨a, rest, hp, rfl⟩

/-! ## Tokens -/

theorem takes_run (kind : TokenKind) (input : Input) :
    (takes kind).run input = if (next input).kind = kind then .ok (true, tail input) else .ok (false, input) := by
  have hrun : (takes kind).run input = (if (next input).kind == kind then advance >>= fun _ => pure true
      else pure false : Parser Bool).run input := rfl
  rw [hrun]
  simp only [beq_iff_eq]
  split <;> rfl

theorem expect_eq_ok {kind : TokenKind} {found : Unit} :
    (expect kind).run input = .ok (found, rest) ↔ (next input).kind = kind ∧ rest = tail input := by
  rw [expect, run_bind_eq_ok]
  constructor
  · rintro ⟨taken, between, htaken, h⟩
    rw [takes_run] at htaken
    split at htaken
    · rename_i hkind
      cases htaken
      cases h
      exact ⟨hkind, rfl⟩
    · cases htaken
      cases h
  · rintro ⟨hkind, rfl⟩
    refine ⟨true, tail input, ?_, rfl⟩
    rw [takes_run, if_pos hkind]

/-! ## Clauses -/

/-- A clause is the texts of the tokens that it takes. -/
theorem clauseFrom_texts (stop : TokenKind → Bool) (depth : Nat) (tokens : List Token) :
    (clauseFrom stop depth tokens).1 ++ (clauseFrom stop depth tokens).2.1.map rendered = tokens.map rendered := by
  induction tokens generalizing depth with
  | nil => rfl
  | cons token tokens ih =>
    unfold clauseFrom
    split
    · rfl
    · split
      · rfl
      · split
        · rfl
        · rw [List.map_cons, ← ih]
          rfl

/-- What a clause leaves is the end of the tokens. -/
theorem clauseFrom_suffix (stop : TokenKind → Bool) (depth : Nat) (tokens : List Token) :
    (clauseFrom stop depth tokens).2.1 <:+ tokens := by
  induction tokens generalizing depth with
  | nil => exact List.suffix_refl []
  | cons token tokens ih =>
    unfold clauseFrom
    split
    · exact List.suffix_refl _
    · split
      · exact List.suffix_refl _
      · split
        · exact List.suffix_refl _
        · exact (ih _).trans (List.suffix_cons token tokens)

theorem clauseTexts_eq_ok {what : String} {stop : TokenKind → Bool} {texts : List String} :
    (clauseTexts what stop).run input = .ok (texts, rest) ↔
      clauseFrom stop 0 input.tokens = (texts, rest.tokens, false) ∧ rest.finish = input.finish := by
  have hrun : (clauseTexts what stop).run input = (if (clauseFrom stop 0 input.tokens).2.2 then mismatch what >>=
      fun (_ : Unit) => pure (clauseFrom stop 0 input.tokens).1 else pure (clauseFrom stop 0 input.tokens).1).run
        { input with tokens := (clauseFrom stop 0 input.tokens).2.1 } := rfl
  rw [hrun]
  obtain ⟨texts', tokens, unknown⟩ := clauseFrom stop 0 input.tokens
  obtain ⟨resttokens, restfinish⟩ := rest
  cases unknown with
  | true =>
    refine iff_of_false ?_ (by simp)
    intro h
    cases h
  | false =>
    constructor
    · intro h
      cases h
      exact ⟨rfl, rfl⟩
    · rintro ⟨heq, rfl⟩
      cases heq
      rfl

theorem clause_eq_ok {stop : TokenKind → Bool} {text : String} : (clause stop).run input = .ok (text, rest) ↔
    ∃ texts, text = " ".intercalate texts ∧ clauseFrom stop 0 input.tokens = (texts, rest.tokens, false) ∧
      rest.finish = input.finish := by
  rw [clause, run_bind_eq_ok]
  simp only [clauseTexts_eq_ok]
  constructor
  · rintro ⟨texts, between, hclause, h⟩
    cases h
    exact ⟨texts, rfl, hclause⟩
  · rintro ⟨texts, rfl, hclause⟩
    exact ⟨texts, rest, hclause, rfl⟩

/-- What stands after WHERE is not empty. -/
theorem whereClause_eq_some {stop : TokenKind → Bool} {text : String}
    (h : (whereClause stop).run input = .ok (some text, rest)) : text ≠ "" ∧ ∃ texts, text = " ".intercalate texts ∧
      clauseFrom (fun kind => stop kind || kind == .semicolon) 0 (tail input).tokens = (texts, rest.tokens, false) ∧
        rest.finish = input.finish := by
  rw [whereClause, run_bind_eq_ok] at h
  obtain ⟨taken, between, htaken, h⟩ := h
  rw [takesWord, takes_run] at htaken
  split at htaken
  · cases htaken
    rw [if_pos rfl, run_bind_eq_ok] at h
    obtain ⟨text', between, hclause, h⟩ := h
    dsimp only at h
    split at h
    · cases h
    · rename_i hempty
      cases h
      refine ⟨?_, clause_eq_ok.1 hclause⟩
      rintro rfl
      exact hempty rfl
  · cases htaken
    cases h

theorem orderClause_eq_none (h : orderClause.run input = .ok (none, rest)) : rest = input := by
  rw [orderClause, run_bind_eq_ok] at h
  obtain ⟨taken, between, htaken, h⟩ := h
  rw [takesWord, takes_run] at htaken
  split at htaken
  · cases htaken
    rw [if_pos rfl, run_bind_eq_ok] at h
    obtain ⟨found, between, -, h⟩ := h
    rw [run_bind_eq_ok] at h
    obtain ⟨keys, between, -, h⟩ := h
    cases h
  · cases htaken
    cases h
    rfl

theorem limitClause_eq_none (h : limitClause.run input = .ok (none, rest)) : rest = input := by
  rw [limitClause, run_bind_eq_ok] at h
  obtain ⟨taken, between, htaken, h⟩ := h
  rw [takesWord, takes_run] at htaken
  split at htaken
  · cases htaken
    rw [if_pos rfl, run_map_eq_ok] at h
    obtain ⟨count, -, hsome⟩ := h
    cases hsome
  · cases htaken
    cases h
    rfl

/-- After a statement stands nothing but a semicolon. -/
theorem script_eq_ok {statement : Statement} (h : script.run input = .ok (statement, rest)) :
    ∃ between, Parser.statement.run input = .ok (statement, between) ∧ ((next between).kind = .semicolon ∨
      (next between).kind = .endOfFile) := by
  rw [script, run_bind_eq_ok] at h
  obtain ⟨found, between, hfound, h⟩ := h
  rw [run_bind_eq_ok] at h
  obtain ⟨taken, after, htaken, h⟩ := h
  rw [run_bind_eq_ok] at h
  obtain ⟨_, last, hexpect, h⟩ := h
  cases h
  refine ⟨between, hfound, ?_⟩
  rw [takes_run] at htaken
  split at htaken
  · rename_i hkind
    exact .inl hkind
  · cases htaken
    exact .inr (expect_eq_ok.1 hexpect).1

/-! ## Kinds of statements -/

/-- Whatever a parser returns has a property. -/
structure Returns (P : α → Prop) (p : Parser α) : Prop where
  holds : ∀ {input rest : Input} {a : α}, p.run input = .ok (a, rest) → P a

namespace Returns

variable {P : β → Prop} {Q : Statement → Prop}

theorem pure {b : β} (h : P b) : Returns P (Pure.pure b) where
  holds hrun := by
    cases hrun
    exact h

theorem bind {p : Parser α} {f : α → Parser β} (hf : ∀ a, Returns P (f a)) : Returns P (p >>= f) where
  holds h := by
    obtain ⟨a, between, -, hsecond⟩ := run_bind_eq_ok.1 h
    exact (hf a).holds hsecond

theorem map {p : Parser α} {g : α → β} (h : ∀ a, P (g a)) : Returns P (g <$> p) where
  holds hrun := by
    obtain ⟨a, -, rfl⟩ := run_map_eq_ok.1 hrun
    exact h a

theorem ite {c : Prop} [Decidable c] {p q : Parser β} (hp : Returns P p) (hq : Returns P q) :
    Returns P (if c then p else q) := by
  split
  · exact hp
  · exact hq

theorem mismatch (expected : String) : Returns P (Parser.mismatch expected : Parser β) where
  holds h := by cases h

theorem create (hindex : ∀ statement, Q (.createIndex statement)) (htable : ∀ table, Q (.createTable table)) :
    Returns Q create :=
  .bind fun _ => .bind fun _ => .ite (.map hindex) (.map htable)

theorem alter (h : ∀ table action column definition, Q (.alterTable table action column definition)) :
    Returns Q alter :=
  .bind fun _ => .bind fun _ => .bind fun _ => .bind fun _ => .bind fun _ => .bind fun _ => .bind fun _ => .pure (h ..)

theorem drop (h : ∀ table ifExists, Q (.dropTable table ifExists)) : Returns Q drop :=
  .bind fun _ => .bind fun _ => .bind fun _ => .bind fun _ => .pure (h ..)

theorem transaction {statement : Statement} (h : Q statement) : Returns Q (transaction statement) :=
  .bind fun _ => .bind fun _ => .pure h

end Returns

/-- A statement that declares a table was read as one. -/
theorem statement_eq_createTable {table : CreateTable} (h : statement.run input = .ok (.createTable table, rest)) :
    create.run input = .ok (.createTable table, rest) := by
  have hother : ∀ {p : Parser Statement}, Returns (· ≠ .createTable table) p →
      p.run input ≠ .ok (.createTable table, rest) := fun hp hrun => hp.holds hrun rfl
  rw [statement, run_bind_eq_ok] at h
  obtain ⟨token, between, hcurrent, h⟩ := h
  cases hcurrent
  split at h
  · exact absurd h (hother (.map (by simp)))
  · exact absurd h (hother (.map (by simp)))
  · exact absurd h (hother (.map (by simp)))
  · exact absurd h (hother (.map (by simp)))
  · exact h
  · exact absurd h (hother (.alter (by simp)))
  · exact absurd h (hother (.drop (by simp)))
  · exact absurd h (hother (.transaction (by simp)))
  · exact absurd h (hother (.transaction (by simp)))
  · exact absurd h (hother (.transaction (by simp)))
  · exact absurd h (hother (.mismatch _))

end Parser

theorem parse_eq_ok {text : String} {statement : Statement} : parse text = .ok statement ↔
    ∃ rest, Parser.script.run (.ofTokens (tokenize text)) = .ok (statement, rest) := by
  rw [parse, parseTokens]
  cases Parser.script.run (.ofTokens (tokenize text)) with
  | error failure => simp [Except.map]
  | ok found =>
    obtain ⟨found, rest⟩ := found
    simp [Except.map]

theorem kind_finish_ofTokens (tokens : List Token) : (Input.ofTokens tokens).finish.kind = .endOfFile := by
  unfold Input.ofTokens
  cases hfound : tokens.find? fun token => token.kind == .endOfFile with
  | none => rfl
  | some token => simpa using List.find?_some hfound

theorem mem_ofTokens {token : Token} {tokens : List Token} (h : token ∈ (Input.ofTokens tokens).tokens) :
    token ∈ tokens ∧ token.kind ≠ .endOfFile := by
  rw [Input.ofTokens] at h
  refine ⟨List.takeWhile_subset _ h, ?_⟩
  simpa using List.mem_takeWhile_imp h

end Relational.Sql
