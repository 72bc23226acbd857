import Mathlib.Data.List.TakeWhile
import Relational.Sql.Parser

/-!
# The rules that a text declares

What a CREATE TABLE asks of the rows of its table can be read off its tokens without the parser: the definitions stand
between the outer parentheses, with commas between them, and a keyword outside of all further parentheses begins each
rule. A column has one place for a condition and one for a reference. So where a definition holds several, the last one
remains.
-/

namespace Relational.Sql

open Text

/-! ## Rules -/

/-- What is asked of the rows of a table. A condition is asked of a column or of the whole row. -/
inductive Rule where
  | primaryKey (column : String)
  | unique (columns : List String)
  | notNull (column : String)
  | check (column : Option String) (condition : String)
  | reference (columns : List String) (table : String) (refColumns : List String)
  deriving Repr, DecidableEq

namespace Rule

/-- The rule with the names of tables and columns in lower case. -/
def folded : Rule → Rule
  | primaryKey column => primaryKey (lower column)
  | unique columns => unique (columns.map lower)
  | notNull column => notNull (lower column)
  | check column condition => check (column.map lower) condition
  | reference columns table refColumns => reference (columns.map lower) (lower table) (refColumns.map lower)

/-- The rule is one of the rules, up to the case of names. -/
def In (rule : Rule) (rules : List Rule) : Prop :=
  ∃ other ∈ rules, other.folded = rule.folded

/-- Two rules for which a column has one place. -/
def samePlace : Rule → Rule → Bool
  | check _ _, check _ _ => true
  | reference _ _ _, reference _ _ _ => true
  | _, _ => false

variable {rule : Rule}

theorem in_iff {rules : List Rule} : rule.In rules ↔ rule.folded ∈ rules.map folded := by
  simp [In]

@[simp] theorem in_nil : rule.In [] ↔ False := by
  simp [In]

@[simp] theorem in_cons {other : Rule} {rules : List Rule} :
    rule.In (other :: rules) ↔ other.folded = rule.folded ∨ rule.In rules := by
  simp [In]

@[simp] theorem in_append {rules rules' : List Rule} : rule.In (rules ++ rules') ↔ rule.In rules ∨ rule.In rules' := by
  simp [In, or_and_right, exists_or]

theorem in_flatMap {α : Type} {f : α → List Rule} {as : List α} : rule.In (as.flatMap f) ↔ ∃ a ∈ as, rule.In (f a) := by
  simp only [In, List.mem_flatMap]
  constructor
  · rintro ⟨other, ⟨a, ha, hother⟩, hsame⟩
    exact ⟨a, ha, other, hother, hsame⟩
  · rintro ⟨a, ha, other, hother, hsame⟩
    exact ⟨other, ⟨a, ha, hother⟩, hsame⟩

theorem in_congr {rules rules' : List Rule} (h : ∀ other, other ∈ rules ↔ other ∈ rules') :
    rule.In rules ↔ rule.In rules' := by
  simp only [In, h]

theorem in_of_mem {rules : List Rule} (h : rule ∈ rules) : rule.In rules :=
  ⟨rule, h, rfl⟩

end Rule

/-- The rules of a definition that are not replaced by later ones. -/
def remaining : List Rule → List Rule
  | [] => []
  | rule :: rules => if rules.any rule.samePlace then remaining rules else rule :: remaining rules

theorem remaining_subset (rules : List Rule) : remaining rules ⊆ rules := by
  induction rules with
  | nil => exact List.Subset.refl []
  | cons rule rules ih =>
    unfold remaining
    split
    · exact List.Subset.trans ih (List.subset_cons_self rule rules)
    · exact List.cons_subset_cons rule ih

/-- A rule more takes the place of those for which there is one place. -/
theorem remaining_concat (rules : List Rule) (new : Rule) :
    remaining (rules ++ [new]) = (remaining rules).filter (fun rule => !rule.samePlace new) ++ [new] := by
  induction rules with
  | nil => rfl
  | cons rule rules ih =>
    rw [List.cons_append, remaining, remaining, List.any_append, ih]
    cases hlater : rules.any rule.samePlace with
    | true => simp
    | false => cases hnew : rule.samePlace new <;> simp [hnew]

theorem mem_remaining_concat {rules : List Rule} {rule new : Rule} :
    rule ∈ remaining (rules ++ [new]) ↔ (rule ∈ remaining rules ∧ rule.samePlace new = false) ∨ rule = new := by
  simp [remaining_concat]

/-! ## Parentheses -/

/-- The number of open parentheses after a token. -/
def depthAfter (depth : Nat) : TokenKind → Nat
  | .leftParen => depth + 1
  | .rightParen => depth - 1
  | _ => depth

/-- The tokens up to a parenthesis that closes none of their own. -/
def inside : Nat → List Token → List Token
  | _, [] => []
  | depth, token :: tokens =>
    if token.kind = .rightParen ∧ depth = 0 then [] else token :: inside (depthAfter depth token.kind) tokens

/-- What stands in the first parentheses. -/
def enclosed (tokens : List Token) : List Token :=
  inside 0 (tokens.dropWhile fun token => token.kind != .leftParen).tail

/-- The parts between the commas that stand outside of parentheses. -/
def parts : Nat → List Token → List (List Token)
  | _, [] => [[]]
  | depth, token :: tokens =>
    if token.kind = .comma ∧ depth = 0 then [] :: parts 0 tokens
    else (parts (depthAfter depth token.kind) tokens).modifyHead (token :: ·)

/-! ## Rules by their keywords -/

/-- The text in the first parentheses. -/
def enclosedText (tokens : List Token) : String :=
  " ".intercalate ((enclosed tokens).map Parser.rendered)

/-- The texts of the tokens that are no commas. -/
def texts (tokens : List Token) : List String :=
  (tokens.filter fun token => token.kind != .comma).map Token.text

/-- The names in the first parentheses. -/
def enclosedNames (tokens : List Token) : List String :=
  texts (enclosed tokens)

/-- The rule that a table and perhaps its columns complete. -/
def referenceRule (columns : List String) : List Token → Rule
  | [] => .reference columns "" columns
  | table :: tokens =>
    .reference columns table.text
      (if tokens.head?.any (·.kind == .leftParen) then enclosedNames tokens else columns)

theorem referenceRule_cons (columns : List String) (table : Token) (tokens : List Token) :
    referenceRule columns (table :: tokens) = .reference columns table.text
      (if tokens.head?.any (·.kind == .leftParen) then enclosedNames tokens else columns) := rfl

/-- The rule for a column that a keyword begins. -/
def columnRule? (column : String) (tokens : List Token) : TokenKind → Option Rule
  | .keyword .PRIMARY => some (.primaryKey column)
  | .keyword .UNIQUE => some (.unique [column])
  | .keyword .NOT => some (.notNull column)
  | .keyword .CHECK => some (.check (some column) (enclosedText tokens))
  | .keyword .REFERENCES => some (referenceRule [column] tokens)
  | _ => none

/-- The rules in the definition of a column. -/
def columnRules (column : String) : Nat → List Token → List Rule
  | _, [] => []
  | depth, token :: tokens =>
    (if depth = 0 then (columnRule? column tokens token.kind).toList else [])
      ++ columnRules column (depthAfter depth token.kind) tokens

/-- The rules for a table that a keyword begins. -/
def tableRules (tokens : List Token) : TokenKind → List Rule
  | .keyword .PRIMARY => (enclosedNames tokens).map .primaryKey
  | .keyword .UNIQUE => [.unique (enclosedNames tokens)]
  | .keyword .FOREIGN =>
    [referenceRule (enclosedNames tokens) (tokens.dropWhile fun token => token.kind != .keyword .REFERENCES).tail]
  | .keyword .CHECK => [.check none (enclosedText tokens)]
  | _ => []

/-- The rules in a definition: of a table, perhaps with a name for the rule, or of a column. -/
def definitionRules : List Token → List Rule
  | [] => []
  | head :: tokens =>
    if head.kind = .keyword .CONSTRAINT then
      match tokens.tail with
      | [] => []
      | keyword :: tokens => tableRules tokens keyword.kind
    else if Parser.beginsConstraint head.kind then tableRules tokens head.kind
    else columnRules head.text 0 tokens

/-- The rules in a text that declares a table, definition by definition. -/
def definitions (text : String) : List (List Rule) :=
  (parts 0 (enclosed (Input.ofTokens (tokenize text)).tokens)).map definitionRules

/-- Every rule that a text declares. -/
def writtenRules (text : String) : List Rule :=
  (definitions text).flatten

/-- The rules that later ones of their definition leave in their place. -/
def remainingRules (text : String) : List Rule :=
  (definitions text).flatMap remaining

theorem remainingRules_subset (text : String) : remainingRules text ⊆ writtenRules text := by
  intro rule hrule
  obtain ⟨rules, hrules, hremaining⟩ := List.mem_flatMap.1 hrule
  exact List.mem_flatten.2 ⟨rules, hrules, remaining_subset rules hremaining⟩

/-- Of two conditions of one column the first is written and does not remain. -/
example : definitions "CREATE TABLE t (a INT CHECK (a > 0) CHECK (a < 10), UNIQUE KEY (a))"
    = [[.check (some "a") "a > 0", .check (some "a") "a < 10"], [.unique ["a"]]] := by
  decide +kernel

/-! ## The rules of a statement -/

/-- What a reference asks. -/
def Reference.rule (fk : Reference) : Rule :=
  .reference fk.columns fk.refTable fk.refColumns

/-- What a column asks, but for its reference. -/
def ColumnClause.ownRules (column : ColumnClause) : List Rule :=
  (if column.primaryKey then [.primaryKey column.name] else [])
    ++ (if column.unique then [.unique [column.name]] else [])
    ++ (if column.notNull then [.notNull column.name] else [])
    ++ column.check.toList.map (.check (some column.name))

/-- What a column asks. -/
def ColumnClause.rules (column : ColumnClause) : List Rule :=
  column.ownRules ++ column.references.toList.map Reference.rule

/-- What a table asks, with its columns. -/
def CreateTable.rules (table : CreateTable) : List Rule :=
  table.columns.flatMap ColumnClause.rules
    ++ table.primaryKey.map .primaryKey
    ++ table.uniques.map (fun clause => .unique clause.columns)
    ++ table.foreignKeys.map Reference.rule
    ++ table.checks.map (fun clause => .check none clause.condition)

/-! ## Tokens at a level -/

/-- The tokens lead from a number of open parentheses to none, no parenthesis closes that was not open, and the tokens
outside of parentheses pass a test. -/
def Level (test : TokenKind → Bool) : Nat → List Token → Prop
  | depth, [] => depth = 0
  | depth, token :: tokens =>
    (depth = 0 → token.kind ≠ .rightParen ∧ test token.kind = true) ∧ Level test (depthAfter depth token.kind) tokens

/-- A token that is no comma. -/
def isNoComma (kind : TokenKind) : Bool :=
  kind != .comma

/-- A token that is no comma and begins no rule for a column. -/
def isQuiet : TokenKind → Bool
  | .comma => false
  | .keyword .PRIMARY | .keyword .UNIQUE | .keyword .NOT | .keyword .CHECK | .keyword .REFERENCES => false
  | _ => true

theorem isNoComma_of_isQuiet {kind : TokenKind} (h : isQuiet kind = true) : isNoComma kind = true := by
  cases kind <;> first | rfl | cases h

theorem columnRule?_eq_none {kind : TokenKind} (h : isQuiet kind = true) (column : String) (tokens : List Token) :
    columnRule? column tokens kind = none := by
  unfold columnRule?
  split <;> first | rfl | cases h

namespace Level

variable {test test' : TokenKind → Bool} {depth : Nat} {tokens more : List Token} {token : Token}

theorem nil : Level test 0 [] := rfl

theorem cons (hkind : token.kind ≠ .leftParen ∧ token.kind ≠ .rightParen) (htest : test token.kind = true)
    (h : Level test 0 tokens) : Level test 0 (token :: tokens) := by
  refine ⟨fun _ => ⟨hkind.2, htest⟩, ?_⟩
  have hdepth : depthAfter 0 token.kind = 0 := by
    unfold depthAfter
    split
    · exact absurd ‹_› hkind.1
    · rfl
    · rfl
  rwa [hdepth]

theorem mono (htest : ∀ kind, test kind = true → test' kind = true) (h : Level test depth tokens) :
    Level test' depth tokens := by
  induction tokens generalizing depth with
  | nil => exact h
  | cons token tokens ih => exact ⟨fun hdepth => ⟨(h.1 hdepth).1, htest _ (h.1 hdepth).2⟩, ih h.2⟩

theorem append (h : Level test depth tokens) (hmore : Level test 0 more) : Level test depth (tokens ++ more) := by
  induction tokens generalizing depth with
  | nil =>
    obtain rfl : depth = 0 := h
    exact hmore
  | cons token tokens ih => exact ⟨h.1, ih h.2⟩

/-- Tokens that are no parentheses are at every level. -/
theorem of_forall (h : ∀ token ∈ tokens, (token.kind ≠ .leftParen ∧ token.kind ≠ .rightParen) ∧
    test token.kind = true) : Level test 0 tokens := by
  induction tokens with
  | nil => exact nil
  | cons token tokens ih =>
    rw [List.forall_mem_cons] at h
    exact cons h.1.1 h.1.2 (ih h.2)

theorem depthAfter_succ (hkind : depth = 0 → token.kind ≠ .rightParen) :
    depthAfter (depth + 1) token.kind = depthAfter depth token.kind + 1 := by
  unfold depthAfter
  split
  · rfl
  · rename_i hclose
    have hpos : depth ≠ 0 := fun hzero => hkind hzero hclose
    omega
  · rfl

/-- Nothing stands outside in what parentheses enclose. -/
theorem close (h : Level test depth tokens) (hclose : token.kind = .rightParen) :
    Level test' (depth + 1) (tokens ++ [token]) := by
  induction tokens generalizing depth with
  | nil =>
    obtain rfl : depth = 0 := h
    refine ⟨(absurd · (Nat.succ_ne_zero _)), ?_⟩
    rw [hclose]
    rfl
  | cons first tokens ih =>
    refine ⟨(absurd · (Nat.succ_ne_zero _)), ?_⟩
    rw [depthAfter_succ fun hdepth => (h.1 hdepth).1]
    exact ih h.2

/-- Parentheses with what they enclose. -/
theorem group {left right : Token} (h : Level test 0 tokens) (hleft : left.kind = .leftParen)
    (htest : test' .leftParen = true) (hright : right.kind = .rightParen) :
    Level test' 0 (left :: (tokens ++ [right])) := by
  refine ⟨fun _ => ⟨by simp [hleft], by rw [hleft, htest]⟩, ?_⟩
  rw [hleft]
  exact h.close hright

theorem inside_append (h : Level test depth tokens) (more : List Token) :
    inside depth (tokens ++ more) = tokens ++ inside 0 more := by
  induction tokens generalizing depth with
  | nil =>
    obtain rfl : depth = 0 := h
    rfl
  | cons token tokens ih =>
    have hopen : ¬ (token.kind = .rightParen ∧ depth = 0) := fun hclose => (h.1 hclose.2).1 hclose.1
    rw [List.cons_append, inside, if_neg hopen, ih h.2, List.cons_append]

/-- Tokens without a comma outside of parentheses belong to one part. -/
theorem parts_append (htest : ∀ kind, test kind = true → isNoComma kind = true) (h : Level test depth tokens)
    (more : List Token) : parts depth (tokens ++ more) = (parts 0 more).modifyHead (tokens ++ ·) := by
  induction tokens generalizing depth with
  | nil =>
    obtain rfl : depth = 0 := h
    cases hparts : parts 0 more <;> simp [hparts]
  | cons token tokens ih =>
    have hcomma : ¬ (token.kind = .comma ∧ depth = 0) := by
      rintro ⟨hkind, hdepth⟩
      have hno := htest _ (h.1 hdepth).2
      rw [hkind] at hno
      cases hno
    rw [List.cons_append, parts, if_neg hcomma, ih h.2, List.modifyHead_modifyHead]
    rfl

/-- Tokens that begin no rule are passed over. -/
theorem columnRules_append (h : Level isQuiet depth tokens) (column : String) (more : List Token) :
    columnRules column depth (tokens ++ more) = columnRules column 0 more := by
  induction tokens generalizing depth with
  | nil =>
    obtain rfl : depth = 0 := h
    rfl
  | cons token tokens ih =>
    rw [List.cons_append, columnRules, ih h.2]
    split
    · rename_i hdepth
      rw [columnRule?_eq_none (h.1 hdepth).2]
      rfl
    · rfl

end Level

theorem columnRules_keyword {token : Token} {word : Keyword} (hkind : token.kind = .keyword word) (column : String)
    (tokens : List Token) : columnRules column 0 (token :: tokens)
      = (columnRule? column tokens (.keyword word)).toList ++ columnRules column 0 tokens := by
  rw [columnRules, hkind]
  rfl

/-- What stands in parentheses at the beginning. -/
theorem enclosed_group {test : TokenKind → Bool} {left right : Token} {tokens : List Token} (hleft : left.kind = .leftParen)
    (h : Level test 0 tokens) (hright : right.kind = .rightParen) (more : List Token) :
    enclosed (left :: (tokens ++ right :: more)) = tokens := by
  rw [enclosed, List.dropWhile_cons_of_neg (by simp [hleft]), List.tail_cons, h.inside_append, inside,
    if_pos ⟨hright, rfl⟩, List.append_nil]

/-- Tokens that are no parentheses stand before the first. -/
theorem enclosed_append {tokens : List Token} (h : ∀ token ∈ tokens, token.kind ≠ .leftParen) (more : List Token) :
    enclosed (tokens ++ more) = enclosed more := by
  have hdrop : (tokens ++ more).dropWhile (fun token => token.kind != .leftParen)
      = more.dropWhile fun token => token.kind != .leftParen :=
    List.dropWhile_append_of_pos fun token htoken => by simpa using h token htoken
  rw [enclosed, enclosed, hdrop]

end Relational.Sql
