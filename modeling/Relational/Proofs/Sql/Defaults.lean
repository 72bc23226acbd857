import Relational.Proofs.Sql.Rules

/-!
# The defaults that a text declares

The default of a column can be read off the tokens of its definition without the parser: a value stands behind each
DEFAULT outside of parentheses, unless the word belongs to the SET DEFAULT of a reference. Of several the last one
remains. A literal in quotes, a constant and a function are told apart here; the column keeps nothing but a text.
-/

namespace Relational.Sql

open Text

/-- What stands behind DEFAULT. -/
inductive WrittenDefault where
  | null
  | constant (text : String)
  | quoted (text : String)
  | function (name : String) (args : Option String)
  deriving Repr, DecidableEq

namespace WrittenDefault

/-- The value that the tokens begin with. -/
def ofTokens : List Token → WrittenDefault
  | [] => .null
  | token :: tokens =>
    match token.kind with
    | .string => .quoted token.text
    | .number => .constant token.text
    | .minus => .constant ("-" ++ (tokens.head?.map Token.text).getD "")
    | .keyword .TRUE => .constant (TokenKind.keyword .TRUE).name
    | .keyword .FALSE => .constant (TokenKind.keyword .FALSE).name
    | .identifier =>
      .function token.text (if tokens.head?.any (·.kind == .leftParen) then some (enclosedText tokens) else none)
    | _ => .null

/-- The text that a column keeps of its default. -/
def text? : WrittenDefault → Option String
  | null => none
  | constant text => some text
  | quoted text => some text
  | function name none => some (upper name)
  | function name (some args) => some (upper name ++ "(" ++ args ++ ")")

end WrittenDefault

/-- The defaults in the definition of a column, perhaps after the word SET. -/
def defaults : Bool → Nat → List Token → List WrittenDefault
  | _, _, [] => []
  | afterSet, depth, token :: tokens =>
    (if depth = 0 ∧ token.kind = .keyword .DEFAULT ∧ afterSet = false then [.ofTokens tokens] else [])
      ++ defaults (token.kind == .keyword .SET) (depthAfter depth token.kind) tokens

/-- The default that remains in the definition of a column. -/
def lastDefault? (tokens : List Token) : Option WrittenDefault :=
  (defaults false 0 tokens).getLast?

/-- A column as its definition says it, with its type in capitals. -/
structure WrittenColumn where
  name : String
  typeName : String
  default : Option WrittenDefault
  deriving Repr, DecidableEq

/-- The column that a definition defines, if it is none of a rule for the table. -/
def writtenColumn? : List Token → Option WrittenColumn
  | name :: type :: tokens =>
    if Parser.beginsConstraint name.kind then none else some ⟨name.text, upper type.text, lastDefault? tokens⟩
  | _ => none

/-- The tokens of each definition in a text that declares a table. -/
def definitionTokens (text : String) : List (List Token) :=
  parts 0 (enclosed (Input.ofTokens (tokenize text)).tokens)

/-- The columns that a text defines. -/
def writtenColumns (text : String) : List WrittenColumn :=
  (definitionTokens text).filterMap writtenColumn?

/-- A clause has the name and the type of a column, and the text of its default. -/
structure ColumnClause.Defined (clause : ColumnClause) (column : WrittenColumn) : Prop where
  name : clause.name = column.name
  typeName : clause.typeName = column.typeName
  default : clause.default = column.default.bind WrittenDefault.text?

/-! ## Tokens without defaults -/

/-- A token that begins neither a rule nor a default, and is no SET, behind which a DEFAULT is none. -/
def isSilent : TokenKind → Bool
  | .keyword .SET | .keyword .DEFAULT => false
  | kind => isQuiet kind

theorem isQuiet_of_isSilent {kind : TokenKind} (h : isSilent kind = true) : isQuiet kind = true := by
  unfold isSilent at h
  split at h
  · cases h
  · cases h
  · exact h

/-- Tokens that hold neither rules nor defaults of a column. -/
structure Silent (tokens : List Token) : Prop where
  quiet : Level isQuiet 0 tokens
  defaults : ∀ more, defaults false 0 (tokens ++ more) = defaults false 0 more

section Silent

variable {tokens more : List Token} {token : Token} {word : Keyword}

theorem defaults_cons_of_ne {afterSet : Bool} {depth : Nat}
    (h : depth = 0 → token.kind ≠ .keyword .DEFAULT) :
    defaults afterSet depth (token :: tokens)
      = defaults (token.kind == .keyword .SET) (depthAfter depth token.kind) tokens := by
  rw [defaults, if_neg fun hdefault => h hdefault.1 hdefault.2.1, List.nil_append]

/-- Inside of parentheses a SET counts for nothing, since a parenthesis closes behind it. -/
theorem Level.defaults_append {afterSet : Bool} {depth : Nat} (h : Level isSilent depth tokens)
    (hset : depth = 0 → afterSet = false) (more : List Token) :
    Sql.defaults afterSet depth (tokens ++ more) = Sql.defaults false 0 more := by
  induction tokens generalizing afterSet depth with
  | nil =>
    obtain rfl : depth = 0 := h
    rw [hset rfl, List.nil_append]
  | cons token tokens ih =>
    have hdefault : depth = 0 → token.kind ≠ .keyword .DEFAULT := by
      intro hdepth hkind
      have hsilent := (h.1 hdepth).2
      rw [hkind] at hsilent
      cases hsilent
    rw [List.cons_append, defaults_cons_of_ne hdefault]
    refine ih h.2 fun hdepth => ?_
    rw [beq_eq_false_iff_ne]
    intro hkind
    rw [hkind] at hdepth
    have hsilent := (h.1 hdepth).2
    rw [hkind] at hsilent
    cases hsilent

theorem Level.silent (h : Level isSilent 0 tokens) : Silent tokens :=
  ⟨h.mono fun _ => isQuiet_of_isSilent, h.defaults_append fun _ => rfl⟩

namespace Silent

theorem nil : Silent [] :=
  Level.nil.silent

theorem append (h : Silent tokens) (hmore : Silent more) : Silent (tokens ++ more) := by
  refine ⟨h.quiet.append hmore.quiet, fun rest => ?_⟩
  rw [List.append_assoc, h.defaults, hmore.defaults]

/-- What SET sets belongs to a reference. -/
theorem set (htoken : token.kind = .keyword .SET) {action : Token} (haction : action.kind = .keyword word)
    (hquiet : isQuiet (.keyword word) = true) (hne : word ≠ .SET) : Silent [token, action] := by
  constructor
  case quiet =>
    exact .cons (by simp [htoken]) (by rw [htoken]; rfl) (.cons (by simp [haction]) (by rwa [haction]) .nil)
  case defaults =>
    intro more
    have hnext : (TokenKind.keyword word == .keyword .SET) = false := by simpa using hne
    simp [Sql.defaults, htoken, haction, depthAfter, hnext]

end Silent

theorem defaults_keyword_of_ne (hkind : token.kind = .keyword word) (hdefault : word ≠ .DEFAULT) (hset : word ≠ .SET) :
    defaults false 0 (token :: tokens) = defaults false 0 tokens := by
  rw [defaults_cons_of_ne fun _ hsame => hdefault (by simpa [hkind] using hsame), hkind]
  have hnext : (TokenKind.keyword word == .keyword .SET) = false := by simpa using hset
  rw [hnext]
  rfl

/-- The value behind DEFAULT. -/
theorem defaults_keyword (hkind : token.kind = .keyword .DEFAULT) :
    defaults false 0 (token :: tokens) = .ofTokens tokens :: defaults false 0 tokens := by
  rw [defaults, hkind, if_pos ⟨rfl, rfl, rfl⟩]
  rfl

end Silent

/-- Of two defaults the second one remains, and SET DEFAULT is none. -/
example : writtenColumns
      "CREATE TABLE t (s Text DEFAULT 'now' REFERENCES u ON DELETE SET DEFAULT DEFAULT NOW (3), n INT DEFAULT -1)"
    = [⟨"s", "TEXT", some (.function "NOW" (some "3"))⟩, ⟨"n", "INT", some (.constant "-1")⟩] := by
  decide +kernel

end Relational.Sql
