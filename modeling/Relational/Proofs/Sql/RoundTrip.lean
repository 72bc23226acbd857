import Mathlib.Algebra.BigOperators.Group.List.Basic
import Relational.Proofs.Sql.Passing
import Relational.Proofs.Sql.Spelling
import Relational.Proofs.Sql.Tiling

/-!
# Written values are read back

The parser of each part of an INSERT takes the tokens of that part as it was written and leaves what follows them. One
token ahead decides what a name begins and whether an operator goes on; the parentheses around both operands of an
operator keep everything else apart.
-/

namespace Relational

open Text

namespace Sql

namespace Parser

variable {α β : Type} {first follow : TokenKind → Prop} {p : Parser α} {f : α → Parser β} {a : α} {b : β}
  {lexemes left right : List Lexeme} {kind : TokenKind} {text : String} {tokens : List Token} {input rest : Input}

/-! ## Taking tokens -/

/-- The input when some tokens are still to be read. -/
def ahead (tokens : List Token) (rest : Input) : Input :=
  { rest with tokens := tokens ++ rest.tokens }

/-- A parser takes tokens that say `lexemes` and reads `a` from them, if what follows them passes a test. -/
def Consumes (follow : TokenKind → Prop) (p : Parser α) (lexemes : List Lexeme) (a : α) : Prop :=
  ∀ tokens rest, tokens.map Token.lexeme = lexemes → follow (next rest).kind →
    p.run (ahead tokens rest) = .ok (a, rest)

/-- A parser that does not look at what follows. -/
abbrev Takes (p : Parser α) (lexemes : List Lexeme) (a : α) : Prop :=
  Consumes (fun _ => True) p lexemes a

/-- The kind of the next token: of the first lexeme, or of what follows. -/
def firstKind (lexemes : List Lexeme) (kind : TokenKind) : TokenKind :=
  (lexemes.head?.map Prod.fst).getD kind

theorem firstKind_name (text : String) (words : List Word) (kind : TokenKind) :
    firstKind (lexemesOf (.name text :: words)) kind = wordKind text := by
  have hlexeme : (Word.name text).lexeme? = some (wordKind text, text) := rfl
  rw [lexemesOf, List.filterMap_cons_some hlexeme, firstKind, List.head?_cons, Option.map_some, Option.getD_some]

theorem firstKind_append (left right : List Lexeme) (kind : TokenKind) :
    firstKind (left ++ right) kind = firstKind left (firstKind right kind) := by
  cases left with
  | nil => rfl
  | cons lexeme left => rfl

theorem kind_next_ahead (tokens : List Token) (rest : Input) :
    (next (ahead tokens rest)).kind = firstKind (tokens.map Token.lexeme) (next rest).kind := by
  cases tokens with
  | nil => rfl
  | cons token tokens => rfl

/-- What may follow an expression: no operator, and nothing that carries a name on. -/
abbrev EndsExpression (kind : TokenKind) : Prop :=
  operator? kind = none ∧ kind ≠ .leftParen ∧ kind ≠ .dot

namespace Consumes

theorem mono (h : Consumes first p lexemes a) (hfollow : ∀ kind, follow kind → first kind) :
    Consumes follow p lexemes a :=
  fun tokens rest htokens hnext => h tokens rest htokens (hfollow _ hnext)

theorem pure (a : α) : Consumes follow (Pure.pure a) [] a := by
  intro tokens rest htokens _
  rw [List.map_eq_nil_iff] at htokens
  rw [htokens]
  rfl

/-- One parser after the other, if the second part lets the first one end. -/
theorem bind (h : Consumes first p left a) (hf : Consumes follow (f a) right b)
    (hfirst : ∀ kind, follow kind → first (firstKind right kind)) : Consumes follow (p >>= f) (left ++ right) b := by
  intro tokens rest htokens hnext
  obtain ⟨ls, rs, rfl, hls, hrs⟩ := List.map_eq_append_iff.1 htokens
  have hsplit : ahead (ls ++ rs) rest = ahead ls (ahead rs rest) := by
    simp [ahead]
  rw [hsplit, run_bind_eq_ok]
  refine ⟨a, ahead rs rest, h ls _ hls ?_, hf rs rest hrs hnext⟩
  rw [kind_next_ahead, hrs]
  exact hfirst _ hnext

theorem next (h : Takes p left a) (hf : Consumes follow (f a) right b) : Consumes follow (p >>= f) (left ++ right) b :=
  h.bind hf fun _ _ => trivial

theorem map (h : Consumes follow p lexemes a) (g : α → β) : Consumes follow (g <$> p) lexemes (g a) := by
  intro tokens rest htokens hnext
  exact run_map_eq_ok.2 ⟨a, h tokens rest htokens hnext, rfl⟩

/-- The last step of a parser puts together what it has read. -/
theorem returns (h : Consumes follow p lexemes a) (g : α → β) :
    Consumes follow (p >>= fun a => Pure.pure (g a)) lexemes (g a) := by
  rw [← map_eq_pure_bind]
  exact h.map g

/-! ### Looking ahead -/

theorem get {f : Input → Parser β} (h : ∀ input : Input, lexemes.length ≤ input.tokens.length →
    Consumes follow (f input) lexemes b) : Consumes follow (MonadState.get >>= f) lexemes b := by
  intro tokens rest htokens hnext
  refine h (ahead tokens rest) ?_ tokens rest htokens hnext
  rw [← htokens, List.length_map, ahead, List.length_append]
  exact Nat.le_add_right _ _

theorem current {f : Token → Parser β}
    (h : ∀ position, Consumes follow (f ⟨kind, text, position⟩) ((kind, text) :: lexemes) b) :
    Consumes follow (Parser.current >>= f) ((kind, text) :: lexemes) b := by
  intro tokens rest htokens hnext
  obtain ⟨token, tokens, rfl, htoken, -⟩ := List.map_eq_cons_iff.1 htokens
  obtain ⟨rfl, rfl⟩ := Prod.mk.inj htoken
  exact h token.position _ rest htokens hnext

theorem current_nil {f : Token → Parser β} (h : ∀ token, follow token.kind → Consumes follow (f token) [] b) :
    Consumes follow (Parser.current >>= f) [] b := by
  intro tokens rest htokens hnext
  obtain rfl := List.map_eq_nil_iff.1 htokens
  exact h _ hnext [] rest rfl hnext

theorem sees (found : Bool) {test : TokenKind → Bool} {f : Bool → Parser β}
    (hfound : ∀ kind, follow kind → test (firstKind lexemes kind) = found) (h : Consumes follow (f found) lexemes b) :
    Consumes follow (Parser.sees test >>= f) lexemes b := by
  intro tokens rest htokens hnext
  rw [run_sees_bind, kind_next_ahead, htokens, hfound _ hnext]
  exact h tokens rest htokens hnext

/-- A token of another kind is not taken. -/
theorem takes_not {f : Bool → Parser β} (hne : ∀ kind', follow kind' → firstKind lexemes kind' ≠ kind)
    (h : Consumes follow (f false) lexemes b) : Consumes follow (Parser.takes kind >>= f) lexemes b := by
  intro tokens rest htokens hnext
  rw [run_bind_eq_ok]
  refine ⟨false, ahead tokens rest, ?_, h tokens rest htokens hnext⟩
  rw [takes_run, kind_next_ahead, htokens, if_neg (hne _ hnext)]

theorem seesNegativeNumber_not {f : Bool → Parser β} (hne : ∀ kind, follow kind → firstKind lexemes kind ≠ .minus)
    (h : Consumes follow (f false) lexemes b) : Consumes follow (Parser.seesNegativeNumber >>= f) lexemes b := by
  intro tokens rest htokens hnext
  rw [run_bind_eq_ok]
  refine ⟨false, ahead tokens rest, ?_, h tokens rest htokens hnext⟩
  have hminus : (Parser.next (ahead tokens rest)).kind ≠ .minus := by
    rw [kind_next_ahead, htokens]
    exact hne _ hnext
  rw [Parser.seesNegativeNumber, run_bind_eq_ok]
  refine ⟨ahead tokens rest, ahead tokens rest, rfl, ?_⟩
  split
  · rename_i heq
    rw [Parser.next, heq] at hminus
    exact absurd rfl hminus
  · rfl

/-! ### Single tokens -/

theorem token (h : ∀ position rest, p.run (ahead [⟨kind, text, position⟩] rest) = .ok (a, rest)) :
    Takes p [(kind, text)] a := by
  intro tokens rest htokens _
  obtain ⟨token, tokens, rfl, htoken, hnil⟩ := List.map_eq_cons_iff.1 htokens
  obtain ⟨rfl, rfl⟩ := Prod.mk.inj htoken
  rw [List.map_eq_nil_iff.1 hnil]
  exact h token.position rest

theorem takes (kind : TokenKind) (text : String) : Takes (Parser.takes kind) [(kind, text)] true :=
  token fun _ _ => (takes_run ..).trans (if_pos rfl)

theorem expect (kind : TokenKind) (text : String) : Takes (Parser.expect kind) [(kind, text)] () :=
  token fun _ _ => expect_eq_ok.2 ⟨rfl, rfl⟩

theorem advance {f : Token → Parser β} (h : ∀ position, Consumes follow (f ⟨kind, text, position⟩) lexemes b) :
    Consumes follow (Parser.advance >>= f) ((kind, text) :: lexemes) b := by
  intro tokens rest htokens hnext
  obtain ⟨token, tokens, rfl, htoken, hrest⟩ := List.map_eq_cons_iff.1 htokens
  obtain ⟨rfl, rfl⟩ := Prod.mk.inj htoken
  exact h token.position tokens rest hrest hnext

theorem name (hname : kind.isName = true) : Takes Parser.name [(kind, text)] text := by
  refine token fun position rest => ?_
  have hnext : (Parser.next (ahead [⟨kind, text, position⟩] rest)).kind.isName = true := hname
  rw [Parser.name, run_sees_bind, if_pos hnext]
  rfl

/-! ### Lists -/

section Items

variable {item : Parser α} {parts : List (List Word)} {as : List α} (hcomma : first .comma)
  (hfollow : ∀ kind, follow kind → first kind ∧ kind ≠ .comma)
  (h : List.Forall₂ (fun part a => Consumes first item (lexemesOf part) a) parts as)
include hcomma hfollow h

theorem moreItems {fuel : Nat} (hfuel : parts.length ≤ fuel) :
    Consumes follow (Parser.moreItems item fuel) (parts.flatMap fun part => (.comma, ",") :: lexemesOf part) as := by
  induction h generalizing fuel with
  | nil =>
    cases fuel with
    | zero => exact pure []
    | succ fuel => exact takes_not (fun kind hkind => (hfollow kind hkind).2) (pure [])
  | @cons part a parts as hpart hparts ih =>
    cases fuel with
    | zero => cases hfuel
    | succ fuel =>
      have hrest := (ih (Nat.le_of_succ_le_succ hfuel)).returns (a :: ·)
      refine (takes .comma ",").next (hpart.bind hrest fun kind hkind => ?_)
      cases parts with
      | nil => exact (hfollow kind hkind).1
      | cons part' parts => exact hcomma

theorem items (hne : parts ≠ []) : Consumes follow (Parser.items item) (lexemesOf (separated parts)) as := by
  cases h with
  | nil => exact absurd rfl hne
  | @cons part a parts as hpart hparts =>
    rw [lexemesOf_separated]
    refine hpart.bind (get fun input hlength => ?_) fun kind hkind => ?_
    · have hfuel : parts.length ≤ input.tokens.length := by
        refine Nat.le_trans ?_ hlength
        have hsum := List.length_le_sum_of_one_le (parts.map fun part => (lexemesOf part).length + 1) (by simp)
        simpa only [List.length_flatMap, List.length_cons, List.length_map] using hsum
      exact (moreItems hcomma hfollow hparts hfuel).returns (a :: ·)
    · cases parts with
      | nil => exact (hfollow kind hkind).1
      | cons part' parts => exact hcomma

end Items

/-- Items in parentheses. -/
theorem parenthesized {item : Parser α} {parts : List (List Word)} {as : List α} (hcomma : first .comma)
    (hclose : first .rightParen) (h : List.Forall₂ (fun part a => Consumes first item (lexemesOf part) a) parts as)
    (hne : parts ≠ []) : Takes (Parser.parenthesized item) (lexemesOf (inParentheses (separated parts))) as := by
  have hitems : Consumes (· = .rightParen) (Parser.items item) (lexemesOf (separated parts)) as := by
    refine items hcomma ?_ h hne
    rintro kind rfl
    exact ⟨hclose, by decide⟩
  rw [lexemesOf_inParentheses]
  refine (expect .leftParen "(").next (hitems.bind ?_ fun kind _ => rfl)
  exact (expect .rightParen ")").returns fun _ => as

/-! ### Expressions -/

variable {expression : Parser Expr} {e : Expr} {fuel : Nat}

/-- A minus sign goes with the number after it. -/
theorem negative (digits : String) : Takes (primary expression) [(.minus, "-"), (.number, digits)]
    (.literal (.number ("-" ++ digits))) := by
  intro tokens rest htokens _
  obtain ⟨⟨_, _, _⟩, tokens, rfl, hsign, htokens⟩ := List.map_eq_cons_iff.1 htokens
  obtain ⟨⟨_, _, _⟩, tokens, rfl, hdigits, hnil⟩ := List.map_eq_cons_iff.1 htokens
  obtain ⟨rfl, rfl⟩ := Prod.mk.inj hsign
  obtain ⟨rfl, rfl⟩ := Prod.mk.inj hdigits
  rw [List.map_eq_nil_iff.1 hnil]
  rfl

theorem literal (value : Literal) :
    Takes (primary expression) (lexemesOf value.spelling) (.literal value) := by
  cases value with
  | number text =>
    rw [Literal.spelling]
    split
    · rename_i digits heq
      have htext : "-" ++ String.ofList digits = text := by
        rw [← String.toList_inj, heq]
        simp
      rw [← htext]
      exact negative (String.ofList digits)
    · exact token fun _ _ => rfl
  | string text => exact token fun _ _ => rfl
  | bool b =>
    cases b
    · exact token fun _ _ => rfl
    · exact token fun _ _ => rfl
  | null => exact token fun _ _ => rfl

theorem named (hname : kind.isName = true) (h : Consumes follow (afterName expression text) lexemes e) :
    Consumes follow (primary expression) ((kind, text) :: lexemes) e := by
  refine seesNegativeNumber_not ?_ (current fun position => ?_)
  · rintro _ _ rfl
    cases hname
  · dsimp only
    split
    case h_7 =>
      rw [if_pos hname]
      exact (name hname).next h
    all_goals cases hname

/-- An expression in parentheses. -/
theorem group (h : Consumes EndsExpression expression lexemes e) :
    Takes (primary expression) ((.leftParen, "(") :: (lexemes ++ [(.rightParen, ")")])) e := by
  refine seesNegativeNumber_not (fun _ _ => by simp [firstKind]) (current fun _ => advance fun _ => ?_)
  have hclose : EndsExpression .rightParen := by decide
  exact h.bind ((expect .rightParen ")").returns fun _ => e) fun _ _ => hclose

theorem column (name : String) : Consumes (fun kind => kind ≠ .leftParen ∧ kind ≠ .dot)
    (afterName expression name) [] (.column none name) :=
  takes_not (fun _ hkind => hkind.1) (takes_not (fun _ hkind => hkind.2) (pure _))

theorem qualified (hname : kind.isName = true) (table : String) :
    Takes (afterName expression table) [(.dot, "."), (kind, text)] (.column (some table) text) :=
  takes_not (fun _ _ => by simp [firstKind]) ((takes .dot ".").next ((name hname).returns (Expr.column (some table))))

theorem call {parts : List (List Word)} {args : List Expr} (function : String)
    (hstart : ∀ part ∈ parts, ∀ kind, firstKind (lexemesOf part) kind ≠ .rightParen)
    (h : List.Forall₂ (fun part e => Consumes EndsExpression expression (lexemesOf part) e) parts args) :
    Takes (afterName expression function) (lexemesOf (inParentheses (separated parts)))
      (.call (upper function) args) := by
  rw [lexemesOf_inParentheses]
  refine (takes .leftParen "(").next ?_
  cases parts with
  | nil =>
    cases h
    refine sees true (fun _ _ => rfl) ?_
    exact (expect .rightParen ")").returns fun _ => Expr.call (upper function) []
  | cons part parts =>
    have hargs : Consumes (· = .rightParen) (Parser.items expression) (lexemesOf (separated (part :: parts))) args := by
      refine items (by decide) ?_ h (by simp)
      rintro kind rfl
      decide
    have hopen : ∀ kind, (firstKind (lexemesOf (separated (part :: parts)) ++ [(.rightParen, ")")]) kind == .rightParen)
        = false := by
      intro kind
      rw [lexemesOf_separated, List.append_assoc, firstKind_append, beq_eq_false_iff_ne]
      exact hstart part (by simp) _
    refine sees false (fun kind _ => hopen kind) ?_
    exact hargs.bind ((expect .rightParen ")").returns fun _ => Expr.call (upper function) args) fun _ _ => rfl

theorem expressionWithin (h : Consumes EndsExpression (primary (Parser.expressionWithin fuel)) lexemes e) :
    Consumes EndsExpression (Parser.expressionWithin (fuel + 1)) lexemes e := by
  rw [← List.append_nil lexemes]
  refine h.bind (current_nil fun token hends => ?_) fun _ hkind => hkind
  rw [hends.1]
  exact pure e

theorem binary {op : Arithmetic} {e' : Expr}
    (h : Consumes EndsExpression (Parser.expressionWithin fuel) left e)
    (h' : Consumes EndsExpression (Parser.expressionWithin fuel) right e') :
    Consumes EndsExpression (Parser.expressionWithin (fuel + 1))
      (((.leftParen, "(") :: (left ++ [(.rightParen, ")")])) ++ (op.kind, op.symbol) :: right) (.binary op e e') := by
  refine (group h).next (current fun position => ?_)
  cases op
  all_goals exact advance fun _ => h'.returns (Expr.binary _ e)

end Consumes

/-! ## Expressions -/

/-- Words are read as an expression, with fuel for each of their tokens. -/
def ReadsExpr (words : List Word) (e : Expr) : Prop :=
  ∀ fuel, (lexemesOf words).length ≤ fuel → Consumes EndsExpression (expressionWithin (fuel + 1)) (lexemesOf words) e

namespace ReadsExpr

variable {words left right : List Word} {e e' : Expr}

theorem group (h : ReadsExpr words e) : ReadsExpr (inParentheses words) e := by
  intro fuel hfuel
  rw [lexemesOf_inParentheses] at hfuel ⊢
  cases fuel with
  | zero => cases hfuel
  | succ fuel =>
    have hinner : (lexemesOf words).length ≤ fuel := by
      simp only [List.length_cons, List.length_append] at hfuel
      omega
    exact .expressionWithin ((Consumes.group (h fuel hinner)).mono fun _ _ => trivial)

theorem binary (op : Arithmetic) (h : ReadsExpr left e) (h' : ReadsExpr right e') :
    ReadsExpr (inParentheses left ++ .blank :: .token op.kind op.symbol :: .blank :: right) (.binary op e e') := by
  intro fuel hfuel
  have hwords : lexemesOf (inParentheses left ++ .blank :: .token op.kind op.symbol :: .blank :: right) =
      ((.leftParen, "(") :: (lexemesOf left ++ [(.rightParen, ")")])) ++ (op.kind, op.symbol) :: lexemesOf right := by
    rw [lexemesOf_append, lexemesOf_inParentheses]
    rfl
  rw [hwords] at hfuel ⊢
  cases fuel with
  | zero => simp at hfuel
  | succ fuel =>
    simp only [List.length_cons, List.length_append] at hfuel
    exact .binary (h fuel (by omega)) (h' fuel (by omega))

theorem call {parts : List (List Word)} {args : List Expr} {function : String} (hname : IsName function)
    (hupper : upper function = function)
    (hstart : ∀ part ∈ parts, ∀ kind, firstKind (lexemesOf part) kind ≠ .rightParen)
    (h : List.Forall₂ ReadsExpr parts args) :
    ReadsExpr (.name function :: inParentheses (separated parts)) (.call function args) := by
  obtain ⟨c, cs, -, -, -, hkind⟩ := hname.exists_word
  intro fuel hfuel
  have hlength : (lexemesOf (separated parts)).length < fuel := by
    have hwords : lexemesOf (.name function :: inParentheses (separated parts)) =
        (wordKind function, function) :: (.leftParen, "(") :: (lexemesOf (separated parts) ++ [(.rightParen, ")")]) := by
      rw [← lexemesOf_inParentheses]
      rfl
    rw [hwords] at hfuel
    simp only [List.length_cons, List.length_append] at hfuel
    omega
  obtain ⟨fuel, rfl⟩ := Nat.exists_eq_succ_of_ne_zero (Nat.ne_zero_of_lt hlength)
  have hargs : List.Forall₂ (fun part e => Consumes EndsExpression (expressionWithin (fuel + 1)) (lexemesOf part) e)
      parts args := by
    rw [List.forall₂_iff_zip] at h ⊢
    refine ⟨h.1, fun hmem => h.2 hmem fuel ?_⟩
    have hpart := length_lexemesOf_le (List.of_mem_zip hmem).1
    omega
  have hcall := Consumes.call function hstart hargs
  rw [hupper] at hcall
  exact .expressionWithin (.named hkind (hcall.mono fun _ _ => trivial))

theorem column {name : String} (hname : IsName name) : ReadsExpr [.name name] (.column none name) := by
  obtain ⟨c, cs, -, -, -, hkind⟩ := hname.exists_word
  exact fun fuel _ => .expressionWithin (.named hkind ((Consumes.column name).mono fun _ hends => hends.2))

theorem qualified {table name : String} (htable : IsName table) (hname : IsName name) :
    ReadsExpr [.name table, .dot, .name name] (.column (some table) name) := by
  obtain ⟨c, cs, -, -, -, hkind⟩ := htable.exists_word
  obtain ⟨c, cs, -, -, -, hkind'⟩ := hname.exists_word
  exact fun fuel _ => .expressionWithin (.named hkind ((Consumes.qualified hkind' table).mono fun _ _ => trivial))

theorem literal (value : Literal) : ReadsExpr value.spelling (.literal value) :=
  fun _ _ => .expressionWithin ((Consumes.literal value).mono fun _ _ => trivial)

end ReadsExpr

end Parser

end Sql

open Sql

/-- An expression does not begin with a closing parenthesis. -/
theorem Expr.firstKind_spelling {e : Expr} (h : e.Spellable) (kind : TokenKind) :
    Parser.firstKind (lexemesOf e.spelling) kind ≠ .rightParen := by
  have hname : ∀ {name : String}, IsName name → wordKind name ≠ .rightParen := by
    intro name hname heq
    obtain ⟨c, cs, -, -, -, hkind⟩ := hname.exists_word
    rw [heq] at hkind
    cases hkind
  cases e with
  | column table name =>
    cases table with
    | none =>
      rw [Expr.spelling, Parser.firstKind_name]
      exact hname h.2
    | some table =>
      rw [Expr.spelling, Parser.firstKind_name]
      exact hname (h.1 table rfl)
  | literal value =>
    rw [Expr.spelling]
    cases value with
    | number text =>
      rw [Literal.spelling]
      split
      · exact TokenKind.noConfusion
      · exact TokenKind.noConfusion
    | _ => exact TokenKind.noConfusion
  | call function args =>
    rw [Expr.spelling, Parser.firstKind_name]
    exact hname h.1
  | binary op left right =>
    rw [Expr.spelling]
    exact TokenKind.noConfusion

theorem firstKind_spellings {es : List Expr} (h : AllSpellable es) : ∀ words ∈ spellings es, ∀ kind,
    Parser.firstKind (lexemesOf words) kind ≠ .rightParen := by
  induction es with
  | nil => simp [spellings]
  | cons e es ih =>
    rw [AllSpellable] at h
    rw [spellings, List.forall_mem_cons]
    exact ⟨Expr.firstKind_spelling h.1, ih h.2⟩

mutual

/-- The words of an expression are read as the expression. -/
theorem Expr.readsExpr : (e : Expr) → e.Spellable → Parser.ReadsExpr e.spelling e
  | .column none name, h => by
    rw [Expr.spelling]
    exact .column h.2
  | .column (some table) name, h => by
    rw [Expr.spelling]
    exact .qualified (h.1 table rfl) h.2
  | .literal value, _ => by
    rw [Expr.spelling]
    exact .literal value
  | .call function args, h => by
    rw [Expr.Spellable] at h
    rw [Expr.spelling]
    exact .call h.1 h.2.1 (firstKind_spellings h.2.2) (readsExprs args h.2.2)
  | .binary op left right, h => by
    rw [Expr.Spellable] at h
    rw [Expr.spelling]
    exact .binary op (left.readsExpr h.1) (right.readsExpr h.2).group

theorem readsExprs : (es : List Expr) → AllSpellable es → List.Forall₂ Parser.ReadsExpr (spellings es) es
  | [], _ => .nil
  | e :: es, h => by
    rw [AllSpellable] at h
    exact .cons (e.readsExpr h.1) (readsExprs es h.2)

end

namespace Sql

/-! ## INSERT -/

namespace Parser

variable {statement : Insert}

theorem takes_tuple {values : List Expr} (hne : values ≠ []) (h : AllSpellable values) :
    Takes (parenthesized expression) (lexemesOf (tupleWords values)) values := by
  have hvalues : List.Forall₂ (fun part e => Consumes EndsExpression expression (lexemesOf part) e)
      (spellings values) values :=
    (readsExprs values h).imp fun part e hread => .get fun input hlength => hread input.tokens.length hlength
  refine .parenthesized (by decide) (by decide) hvalues ?_
  cases values with
  | nil => exact absurd rfl hne
  | cons e es => simp [spellings]

theorem takes_names {columns : List String} (hne : columns ≠ []) (h : ∀ column ∈ columns, IsName column) :
    Takes names (lexemesOf (inParentheses (separated (columns.map fun column => [.name column])))) columns := by
  have hnames : List.Forall₂ (fun part name => Consumes (fun _ => True) Parser.name (lexemesOf part) name)
      (columns.map fun column => [.name column]) columns := by
    rw [List.forall₂_map_left_iff, List.forall₂_same]
    intro column hcolumn
    obtain ⟨c, cs, -, -, -, hkind⟩ := (h column hcolumn).exists_word
    exact .name hkind
  exact .parenthesized trivial trivial hnames (by simpa using hne)

theorem consumes_insert (h : statement.Spellable) :
    Consumes (· = .endOfFile) insert (lexemesOf statement.words) statement := by
  obtain ⟨table, columns, values⟩ := statement
  obtain ⟨c, cs, -, -, -, htable⟩ := h.table.exists_word
  have hvalues : Consumes (· = .endOfFile) (items (parenthesized expression))
      (lexemesOf (separated (values.map tupleWords))) values := by
    have htuples : List.Forall₂ (fun part tuple => Takes (parenthesized expression) (lexemesOf part) tuple)
        (values.map tupleWords) values := by
      rw [List.forall₂_map_left_iff, List.forall₂_same]
      exact fun tuple htuple => takes_tuple (h.values tuple htuple).1 (h.values tuple htuple).2
    refine .items trivial ?_ htuples (by simpa using h.ne)
    rintro kind rfl
    exact ⟨trivial, by decide⟩
  have hlast : Consumes (· = .endOfFile)
      (expectWord .VALUES >>= fun _ => items (parenthesized expression) >>= fun values => pure ⟨table, columns, values⟩)
      ([(.keyword .VALUES, "VALUES")] ++ lexemesOf (separated (values.map tupleWords)))
      (⟨table, columns, values⟩ : Insert) :=
    (Consumes.expect _ _).next (hvalues.returns (Insert.mk table columns))
  have hwords : lexemesOf (Insert.words ⟨table, columns, values⟩) =
      [(.keyword .INSERT, "INSERT")] ++ ([(.keyword .INTO, "INTO")] ++ ([(wordKind table, table)] ++
        (lexemesOf (columnWords columns) ++ ([(.keyword .VALUES, "VALUES")] ++
          lexemesOf (separated (values.map tupleWords)))))) := by
    have hafter : lexemesOf (columnWords columns ++ .keyword .VALUES :: .blank :: separated (values.map tupleWords)) =
        lexemesOf (columnWords columns) ++ ([(.keyword .VALUES, "VALUES")] ++
          lexemesOf (separated (values.map tupleWords))) := by
      rw [lexemesOf_append]
      rfl
    exact congrArg (fun after => (.keyword .INSERT, "INSERT") :: (.keyword .INTO, "INTO") :: (wordKind table, table) ::
      after) hafter
  rw [hwords]
  refine (Consumes.expect _ _).next ((Consumes.expect _ _).next ((Consumes.name htable).next ?_))
  cases columns with
  | none => exact .sees false (fun _ _ => rfl) hlast
  | some columns =>
    refine .sees true (fun _ _ => rfl) ?_
    have hcolumns : Takes (some <$> names) (lexemesOf (columnWords (some columns))) (some columns) := by
      have hblank : lexemesOf [.blank] = [] := rfl
      rw [columnWords, lexemesOf_append, hblank, List.append_nil]
      exact (takes_names (h.columns columns rfl).1 (h.columns columns rfl).2).map some
    exact hcolumns.next hlast

theorem consumes_statement (h : statement.Spellable) :
    Consumes (· = .endOfFile) Parser.statement (lexemesOf statement.words) (.insert statement) :=
  .current fun _ => (consumes_insert h).map Statement.insert

/-- A statement is all of a text that says nothing else. -/
theorem script_run {found : Statement} {lexemes : List Lexeme} {tokens : List Token} {finish : Token}
    (h : Consumes (· = .endOfFile) Parser.statement lexemes found) (htokens : tokens.map Token.lexeme = lexemes)
    (hfinish : finish.kind = .endOfFile) : script.run ⟨tokens, finish⟩ = .ok (found, ⟨[], finish⟩) := by
  have hrun := h tokens ⟨[], finish⟩ htokens hfinish
  rw [ahead, List.append_nil] at hrun
  have hsemicolon : (next ⟨[], finish⟩).kind ≠ .semicolon := by
    rw [next, List.headD_nil, hfinish]
    exact TokenKind.noConfusion
  rw [script, run_bind_eq_ok]
  refine ⟨found, ⟨[], finish⟩, hrun, ?_⟩
  rw [run_bind_eq_ok]
  refine ⟨false, ⟨[], finish⟩, by rw [takes_run, if_neg hsemicolon], ?_⟩
  rw [run_bind_eq_ok]
  exact ⟨(), ⟨[], finish⟩, expect_eq_ok.2 ⟨hfinish, rfl⟩, rfl⟩

end Parser

/-- The tokens of a text are those before its end and the one for its end. -/
theorem exists_ofTokens_tokenize (text : String) : ∃ tokens finish, tokenize text = tokens ++ [finish] ∧
    finish.kind = .endOfFile ∧ Input.ofTokens (tokenize text) = ⟨tokens, finish⟩ := by
  obtain ⟨tiles, ending, htiles⟩ := exists_tiles [] text.toList
  have htokens : tokenize text = _ := htiles.tokens_eq
  have hkind : ∀ token ∈ tiles.map Tile.token, (token.kind != .endOfFile) = true := by
    rw [List.forall_mem_map]
    exact fun tile htile => bne_iff_ne.2 (htiles.source tile htile).kind_ne
  refine ⟨_, _, htokens, rfl, ?_⟩
  rw [htokens, Input.ofTokens, List.takeWhile_append_of_pos hkind, List.find?_append, List.find?_eq_none.2]
  · simp
  · exact fun token htoken => by simpa using hkind token htoken

variable {statement : Insert}

/-- INSERT is read back as it was written, whatever expressions it has for values. -/
theorem parse_print_insert (h : statement.Spellable) : parse statement.print = .ok (.insert statement) := by
  obtain ⟨tokens, finish, htokens, hfinish, hinput⟩ := exists_ofTokens_tokenize statement.print
  have hlexemes := Insert.readings_print h
  rw [readings, ← tokenize, htokens, List.map_append] at hlexemes
  have hwords : tokens.map Token.lexeme = lexemesOf statement.words := (List.append_inj' hlexemes rfl).1
  rw [parse_eq_ok, hinput]
  exact ⟨⟨[], finish⟩, Parser.script_run (Parser.consumes_statement h) hwords hfinish⟩

/-- The values of `nestedInsert` nest operators, a call and a signed number, and one of its columns is named by a
keyword. -/
def nestedInsert : Insert :=
  ⟨"t", some ["a", "KEY"], [[.binary .sub (.column (some "t") "a")
    (.binary .mul (.call "LEFT" [.literal (.string "it's"), .literal (.number "-1.5")]) (.literal (.bool true))),
      .literal .null]]⟩

theorem parse_print_nestedInsert :
    nestedInsert.print = "INSERT INTO t (a, KEY) VALUES ((t.a) - ((LEFT('it\\'s', -1.5)) * (TRUE)), NULL)" ∧
      nestedInsert.Spellable ∧ parse nestedInsert.print = .ok (.insert nestedInsert) := by
  have hname : ∀ name ∈ ["t", "a"], IsName name := by
    simp only [List.forall_mem_cons]
    exact ⟨⟨.identifier, rfl, by decide +kernel⟩, ⟨.identifier, rfl, by decide +kernel⟩, by simp⟩
  have hkeyword : IsName "KEY" ∧ IsName "LEFT" :=
    ⟨⟨.keyword .KEY, rfl, by decide +kernel⟩, ⟨.keyword .LEFT, rfl, by decide +kernel⟩⟩
  have hnumber : Literal.Spellable (.number "-1.5") :=
    .inr ⟨['1', '.', '5'], rfl, '1', ['.', '5'], rfl, by decide, List.all_eq_true.1 (by decide)⟩
  have hstring : Literal.Spellable (.string "it's") := by
    unfold Literal.Spellable
    decide
  have hspellable : nestedInsert.Spellable := by
    refine ⟨hname "t" (by simp), ?_, by simp [nestedInsert], ?_⟩
    · rintro columns ⟨⟩
      simp only [List.forall_mem_cons]
      exact ⟨by simp, hname "a" (by simp), hkeyword.1, by simp⟩
    · have hupper : upper "LEFT" = "LEFT" := by decide +kernel
      have hcolumn : Expr.Spellable (.column (some "t") "a") := ⟨by simpa using hname "t" (by simp), hname "a" (by simp)⟩
      have hcall : Expr.Spellable (.call "LEFT" [.literal (.string "it's"), .literal (.number "-1.5")]) :=
        ⟨hkeyword.2, hupper, hstring, hnumber, trivial⟩
      simp only [nestedInsert, List.forall_mem_cons]
      exact ⟨⟨by simp, ⟨hcolumn, hcall, trivial⟩, trivial, trivial⟩, by simp⟩
  exact ⟨by decide +kernel, hspellable, parse_print_insert hspellable⟩

end Sql

end Relational
