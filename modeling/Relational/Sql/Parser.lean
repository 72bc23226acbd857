import Relational.Failure
import Relational.Sql.Lexer
import Relational.Sql.Statement

/-!
# Reading statements

A statement is read from its tokens from left to right, one token ahead. The first token that does not fit is
named together with what was expected in its place. Arithmetic has no precedence: whatever stands to the right
of an operator is its right operand.
-/

namespace Relational.Sql

open Text

/-- The tokens that are left, and the token that marks the end. -/
structure Input where
  tokens : List Token
  finish : Token

/-- A reader of tokens. -/
abbrev Parser := StateT Input (Except Failure)

namespace Parser

/-! ## Single tokens -/

/-- The next token. -/
def current : Parser Token := do
  let input ← get
  pure (input.tokens.headD input.finish)

/-- Takes the next token; the end is never taken. -/
def advance : Parser Token := do
  let token ← current
  modify fun input => { input with tokens := input.tokens.tail }
  pure token

/-- The next token is not what it has to be. -/
def mismatch {α : Type} (expected : String) : Parser α := do
  throw (.refusal (.syntaxError ⟨expected, ← current⟩))

/-- The kind of the next token passes a test. -/
def sees (test : TokenKind → Bool) : Parser Bool := do
  pure (test (← current).kind)

/-- The next token is the given keyword. -/
def seesWord (word : Keyword) : Parser Bool :=
  sees (· == .keyword word)

/-- Takes the next token if it is of the given kind. -/
def takes (kind : TokenKind) : Parser Bool := do
  if ← sees (· == kind) then
    let _ ← advance
    pure true
  else pure false

/-- Takes the next token if it is the given keyword. -/
def takesWord (word : Keyword) : Parser Bool :=
  takes (.keyword word)

/-- Takes a token of the given kind. -/
def expect (kind : TokenKind) : Parser Unit := do
  if ← takes kind then pure () else mismatch kind.name

/-- Takes the given keyword. -/
def expectWord (word : Keyword) : Parser Unit :=
  expect (.keyword word)

/-- Takes a name. -/
def name : Parser String := do
  if ← sees TokenKind.isName then pure (← advance).text else mismatch TokenKind.identifier.name

/-! ## Lists -/

/-- Items after a first one, each after a comma; `fuel` bounds their number. -/
def moreItems {α : Type} (item : Parser α) : Nat → Parser (List α)
  | 0 => pure []
  | fuel + 1 => do
    if ← takes .comma then
      let first ← item
      let rest ← moreItems item fuel
      pure (first :: rest)
    else pure []

/-- Items with commas between them; there is at least one. -/
def items {α : Type} (item : Parser α) : Parser (List α) := do
  let first ← item
  let rest ← moreItems item (← get).tokens.length
  pure (first :: rest)

/-- Items with commas between them, in parentheses. -/
def parenthesized {α : Type} (item : Parser α) : Parser (List α) := do
  expect .leftParen
  let found ← items item
  expect .rightParen
  pure found

/-- Names in parentheses. -/
def names : Parser (List String) :=
  parenthesized name

/-! ## Clauses kept as text -/

/-- A token as it stands in the text of a clause. -/
def rendered (token : Token) : String :=
  if token.kind = .string then quote token.text else token.text

/-- The tokens up to a stop outside of parentheses or to a closing parenthesis without an opening one, and the
rest. An unknown character ends the clause at once; the last component tells. -/
def clauseFrom (stop : TokenKind → Bool) (depth : Nat) : List Token → List String × List Token × Bool
  | [] => ([], [], false)
  | token :: tokens =>
    if depth = 0 && stop token.kind then ([], token :: tokens, false)
    else if token.kind = .unknown then ([], token :: tokens, true)
    else if token.kind = .rightParen && depth = 0 then ([], token :: tokens, false)
    else
      let depth :=
        if token.kind = .leftParen then depth + 1
        else if token.kind = .rightParen then depth - 1
        else depth
      let (texts, rest, unknown) := clauseFrom stop depth tokens
      (rendered token :: texts, rest, unknown)

/-- The texts of the tokens of a clause; `what` names the clause where an unknown character stands in it. -/
def clauseTexts (what : String) (stop : TokenKind → Bool) : Parser (List String) := do
  let (texts, rest, unknown) := clauseFrom stop 0 (← get).tokens
  modify fun input => { input with tokens := rest }
  if unknown then mismatch what
  pure texts

/-- A clause as text, a blank between its tokens. -/
def clause (stop : TokenKind → Bool) : Parser String := do
  pure (" ".intercalate (← clauseTexts "expression" stop))

/-- What stands between parentheses, as text. -/
def parenthesizedText (what : String) : Parser String := do
  expect .leftParen
  let texts ← clauseTexts what fun _ => false
  if (← get).tokens.isEmpty then mismatch TokenKind.rightParen.name
  if texts.isEmpty then mismatch what
  let _ ← advance
  pure (" ".intercalate texts)

/-! ## Expressions -/

/-- The operator that a token stands for. -/
def operator? : TokenKind → Option Arithmetic
  | .plus => some .add
  | .minus => some .sub
  | .asterisk => some .mul
  | .divide => some .div
  | .percent => some .mod
  | _ => none

/-- A minus sign and a number follow. -/
def seesNegativeNumber : Parser Bool := do
  match (← get).tokens with
  | ⟨.minus, _, _⟩ :: ⟨.number, _, _⟩ :: _ => pure true
  | _ => pure false

/-- What a name begins: a call, a column of a table, or a column. -/
def afterName (expression : Parser Expr) (first : String) : Parser Expr := do
  if ← takes .leftParen then
    let args ← if ← sees (· == .rightParen) then pure [] else items expression
    expect .rightParen
    pure (.call (upper first) args)
  else if ← takes .dot then
    pure (.column (some first) (← name))
  else pure (.column none first)

/-- An expression without an operator, or one in parentheses. -/
def primary (expression : Parser Expr) : Parser Expr := do
  if ← seesNegativeNumber then
    let _ ← advance
    pure (.literal (.number ("-" ++ (← advance).text)))
  else
    match (← current).kind with
    | .string => do pure (.literal (.string (← advance).text))
    | .number => do pure (.literal (.number (← advance).text))
    | .keyword .NULL => do
      let _ ← advance
      pure (.literal .null)
    | .keyword .TRUE => do
      let _ ← advance
      pure (.literal (.bool true))
    | .keyword .FALSE => do
      let _ ← advance
      pure (.literal (.bool false))
    | .leftParen => do
      let _ ← advance
      let e ← expression
      expect .rightParen
      pure e
    | kind => do
      if kind.isName then
        afterName expression (← name)
      else mismatch "expression"

/-- An expression; each level of nesting takes a token, so `fuel` may be one more than their number. -/
def expressionWithin : Nat → Parser Expr
  | 0 => mismatch "expression"
  | fuel + 1 => do
    let left ← primary (expressionWithin fuel)
    match operator? (← current).kind with
    | none => pure left
    | some op => do
      let _ ← advance
      pure (.binary op left (← expressionWithin fuel))

/-- An expression. -/
def expression : Parser Expr := do
  expressionWithin ((← get).tokens.length + 1)

/-! ## Queries and changes -/

/-- A clause of conditions: WHERE, or nothing. -/
def whereClause (stop : TokenKind → Bool) : Parser (Option String) := do
  if ← takesWord .WHERE then
    let text ← clause fun kind => stop kind || kind == .semicolon
    if text.isEmpty then mismatch "condition"
    pure (some text)
  else pure none

/-- A key of ORDER BY, as text. -/
def orderKey : Parser String := do
  let column ← name
  if ← takesWord .ASC then pure (column ++ " ASC")
  else if ← takesWord .DESC then pure (column ++ " DESC")
  else pure column

/-- The text consists of digits. -/
def isDigitText (text : String) : Bool :=
  !text.isEmpty && text.toList.all isDigitLike

/-- The number of rows of LIMIT. -/
def limit : Parser Nat := do
  let token ← current
  if token.kind = .number && isDigitText token.text then
    let _ ← advance
    match Decimal.readInteger? token.text with
    | some n => pure n.toNat
    | none => throw (.fault (.value (.integer token.text)))
  else mismatch "integer"

/-- Keywords that begin a join. -/
def beginsJoin : TokenKind → Bool
  | .keyword .JOIN | .keyword .INNER | .keyword .LEFT | .keyword .RIGHT | .keyword .FULL | .keyword .CROSS => true
  | _ => false

/-- Keywords that end the WHERE clause of a query. -/
def endsCondition : TokenKind → Bool
  | .keyword .ORDER | .keyword .LIMIT => true
  | _ => false

/-- ORDER BY, or nothing. -/
def orderClause : Parser (Option String) := do
  if ← takesWord .ORDER then
    expectWord .BY
    let keys ← items orderKey
    pure (some (", ".intercalate keys))
  else pure none

/-- LIMIT, or nothing. -/
def limitClause : Parser (Option Nat) := do
  if ← takesWord .LIMIT then some <$> limit else pure none

/-- SELECT up to LIMIT. -/
def query : Parser Select := do
  expectWord .SELECT
  let selection ← if ← takes .asterisk then pure .all else .columns <$> items name
  expectWord .FROM
  let table ← name
  let join ←
    if ← sees beginsJoin then
      some <$> clause fun kind => kind == .keyword .WHERE || endsCondition kind || kind == .semicolon
    else pure none
  let condition ← whereClause endsCondition
  let order ← orderClause
  pure ⟨selection, table, condition, order, none, join⟩

/-- SELECT. -/
def select : Parser Select := do
  let found ← query
  let count ← limitClause
  pure { found with limit := count }

/-- INSERT. -/
def insert : Parser Insert := do
  expectWord .INSERT
  expectWord .INTO
  let table ← name
  let columns ← if ← sees (· == .leftParen) then some <$> names else pure none
  expectWord .VALUES
  let values ← items (parenthesized expression)
  pure ⟨table, columns, values⟩

/-- A column and its new value. -/
def assignment : Parser (String × Expr) := do
  let column ← name
  expect .equals
  pure (column, ← expression)

/-- UPDATE. -/
def update : Parser Update := do
  expectWord .UPDATE
  let table ← name
  expectWord .SET
  let assignments ← items assignment
  let condition ← whereClause fun _ => false
  pure ⟨table, assignments, condition⟩

/-- DELETE. -/
def delete : Parser Delete := do
  expectWord .DELETE
  expectWord .FROM
  let table ← name
  let condition ← whereClause fun _ => false
  pure ⟨table, condition⟩

/-! ## Definitions -/

/-- CREATE INDEX after CREATE. -/
def createIndex : Parser CreateIndex := do
  let unique ← takesWord .UNIQUE
  expectWord .INDEX
  let index ← name
  expectWord .ON
  let table ← name
  let columns ← names
  pure ⟨index, table, columns, unique⟩

/-- A parameter of a column type. -/
def typeParam : Parser String := do
  if ← sees fun kind => kind == .number || kind == .string then pure (← advance).text
  else mismatch "type parameter"

/-- The next token is an identifier with the given spelling in capitals. -/
def seesIdentifier (capital : String) : Parser Bool := do
  let token ← current
  pure (token.kind == .identifier && upper token.text == capital)

/-- What happens to a reference on a deletion or an update. -/
def referentialAction : Parser String := do
  if ← takesWord .CASCADE then pure "CASCADE"
  else if ← takesWord .RESTRICT then pure "RESTRICT"
  else if ← takesWord .SET then
    if ← takesWord .NULL then pure "SET NULL"
    else do
      expectWord .DEFAULT
      pure "SET DEFAULT"
  else if ← seesIdentifier "NO" then
    let _ ← advance
    if ← seesIdentifier "ACTION" then
      let _ ← advance
      pure "NO ACTION"
    else mismatch "referential action"
  else mismatch "referential action"

/-- The actions of a reference; `fuel` bounds their number. -/
def referentialActions : Nat → Reference → Parser Reference
  | 0, fk => pure fk
  | fuel + 1, fk => do
    if ← takesWord .ON then
      if ← takesWord .DELETE then referentialActions fuel { fk with onDelete := ← referentialAction }
      else if ← takesWord .UPDATE then referentialActions fuel { fk with onUpdate := ← referentialAction }
      else mismatch "DELETE or UPDATE"
    else pure fk

/-- What follows REFERENCES. Without a list the referenced columns have the names of the referencing ones. -/
def reference (constraint : Option String) (columns : List String) : Parser Reference := do
  let table ← name
  let refColumns ← if ← sees (· == .leftParen) then names else pure columns
  referentialActions (← get).tokens.length ⟨constraint, columns, table, refColumns, "RESTRICT", "RESTRICT"⟩

/-- The value after DEFAULT; none for NULL. -/
def defaultValue : Parser (Option String) := do
  if ← seesNegativeNumber then
    let _ ← advance
    pure (some ("-" ++ (← advance).text))
  else
    match (← current).kind with
    | .string | .number => do pure (some (← advance).text)
    | .keyword .NULL => do
      let _ ← advance
      pure none
    | .keyword .TRUE | .keyword .FALSE => do pure (some (← advance).kind.name)
    | .identifier => do
      let function := upper (← advance).text
      if ← takes .leftParen then
        let args ← clause fun _ => false
        expect .rightParen
        pure (some (function ++ "(" ++ args ++ ")"))
      else pure (some function)
    | _ => mismatch "default value"

/-- The definition of a column ends here. -/
def endsColumn : TokenKind → Bool
  | .comma | .rightParen | .endOfFile => true
  | _ => false

/-- The constraints of a column, where `constraint` is the name for the next reference; each one takes a token,
so `fuel` may be their number. -/
def columnConstraints : Nat → Option String → ColumnClause → Parser ColumnClause
  | 0, _, column => pure column
  | fuel + 1, constraint, column => do
    if ← sees endsColumn then pure column
    else if ← takesWord .PRIMARY then
      expectWord .KEY
      columnConstraints fuel constraint { column with primaryKey := true }
    else if ← takesWord .UNIQUE then
      let _ ← takesWord .KEY
      columnConstraints fuel constraint { column with unique := true }
    else if ← takesWord .NOT then
      expectWord .NULL
      columnConstraints fuel constraint { column with notNull := true }
    else if ← takesWord .NULL then columnConstraints fuel constraint column
    else if ← takesWord .AUTO_INCREMENT then
      columnConstraints fuel constraint { column with autoIncrement := true }
    else if ← takesWord .DEFAULT then
      columnConstraints fuel constraint { column with default := ← defaultValue }
    else if ← takesWord .CHECK then
      columnConstraints fuel constraint { column with check := some (← parenthesizedText "condition") }
    else if ← takesWord .REFERENCES then
      columnConstraints fuel constraint { column with references := some (← reference constraint [column.name]) }
    else if ← takesWord .CONSTRAINT then
      let named ← name
      columnConstraints fuel (some named) column
    else mismatch "column constraint"

/-- The name of a column type. -/
def typeName : Parser String := do
  let isTypeName : TokenKind → Bool
    | .identifier => true
    | .keyword word => word.isType
    | _ => false
  if ← sees isTypeName then pure (upper (← advance).text) else mismatch "data type"

/-- The definition of a column. -/
def columnClause : Parser ColumnClause := do
  let column ← name
  let type ← typeName
  let params ← if ← sees (· == .leftParen) then parenthesized typeParam else pure []
  columnConstraints (← get).tokens.length none
    ⟨column, type, params, false, false, false, false, none, none, none⟩

/-- The columns of a primary key that are not in it yet, after those that are. -/
def addKeyColumns (key : List String) (columns : List String) : List String :=
  columns.foldl (fun key column => if key.any (sameName column) then key else key ++ [column]) key

/-- A constraint of a table, after its name. -/
def tableConstraint (constraint : Option String) (table : CreateTable) : Parser CreateTable := do
  if ← takesWord .PRIMARY then
    expectWord .KEY
    let columns ← names
    pure { table with primaryKey := addKeyColumns table.primaryKey columns }
  else if ← takesWord .UNIQUE then
    let _ ← takesWord .KEY
    let columns ← names
    pure { table with uniques := table.uniques ++ [⟨constraint, columns⟩] }
  else if ← takesWord .FOREIGN then
    expectWord .KEY
    let columns ← names
    expectWord .REFERENCES
    let fk ← reference constraint columns
    pure { table with foreignKeys := table.foreignKeys ++ [fk] }
  else if ← takesWord .CHECK then
    let condition ← parenthesizedText "condition"
    pure { table with checks := table.checks ++ [⟨constraint, condition⟩] }
  else mismatch "table constraint"

/-- Keywords that begin a constraint of a table. -/
def beginsConstraint : TokenKind → Bool
  | .keyword .PRIMARY | .keyword .UNIQUE | .keyword .FOREIGN | .keyword .CONSTRAINT | .keyword .CHECK => true
  | _ => false

/-- A column or a constraint of a table. -/
def tableElement (table : CreateTable) : Parser CreateTable := do
  if ← sees beginsConstraint then
    let constraint ← if ← takesWord .CONSTRAINT then some <$> name else pure none
    tableConstraint constraint table
  else
    let column ← columnClause
    pure { table with
      columns := table.columns ++ [column]
      primaryKey := if column.primaryKey then table.primaryKey ++ [column.name] else table.primaryKey }

/-- The elements of a table after the first, each after a comma; `fuel` bounds their number. -/
def moreElements : Nat → CreateTable → Parser CreateTable
  | 0, table => pure table
  | fuel + 1, table => do
    if ← takes .comma then moreElements fuel (← tableElement table) else pure table

/-- IF NOT EXISTS, or nothing. -/
def ifNotExists : Parser Bool := do
  if ← takesWord .IF then
    expectWord .NOT
    expectWord .EXISTS
    pure true
  else pure false

/-- CREATE TABLE after CREATE. -/
def createTable : Parser CreateTable := do
  expectWord .TABLE
  let lenient ← ifNotExists
  let table ← name
  expect .leftParen
  let first ← tableElement ⟨table, lenient, [], [], [], [], []⟩
  let all ← moreElements (← get).tokens.length first
  expect .rightParen
  pure all

/-- CREATE. -/
def create : Parser Statement := do
  expectWord .CREATE
  if ← sees fun kind => kind == .keyword .UNIQUE || kind == .keyword .INDEX then .createIndex <$> createIndex
  else .createTable <$> createTable

/-- What ALTER TABLE does to a column. -/
def alteration : Parser Alteration := do
  if ← takesWord .ADD then pure .add
  else if ← takesWord .DROP then pure .drop
  else if ← takesWord .MODIFY then pure .modify
  else mismatch "ADD, DROP or MODIFY"

/-- ALTER TABLE. -/
def alter : Parser Statement := do
  expectWord .ALTER
  expectWord .TABLE
  let table ← name
  let action ← alteration
  let _ ← takesWord .COLUMN
  let column ← name
  let definition ← clause (· == .semicolon)
  pure (.alterTable table action column definition)

/-- IF EXISTS, or nothing. -/
def ifExists : Parser Bool := do
  if ← takesWord .IF then
    expectWord .EXISTS
    pure true
  else pure false

/-- DROP TABLE. -/
def drop : Parser Statement := do
  expectWord .DROP
  expectWord .TABLE
  let lenient ← ifExists
  pure (.dropTable (← name) lenient)

/-- A step of a transaction. -/
def transaction (statement : Statement) : Parser Statement := do
  let _ ← advance
  let _ ← takesWord .TRANSACTION
  pure statement

/-- A statement, by its first keyword. -/
def statement : Parser Statement := do
  match (← current).kind with
  | .keyword .SELECT => .select <$> select
  | .keyword .INSERT => .insert <$> insert
  | .keyword .UPDATE => .update <$> update
  | .keyword .DELETE => .delete <$> delete
  | .keyword .CREATE => create
  | .keyword .ALTER => alter
  | .keyword .DROP => drop
  | .keyword .BEGIN => transaction .begin
  | .keyword .COMMIT => transaction .commit
  | .keyword .ROLLBACK => transaction .rollback
  | _ => mismatch "statement"

/-- One statement, with at most one semicolon after it and nothing else. -/
def script : Parser Statement := do
  let found ← statement
  let _ ← takes .semicolon
  expect .endOfFile
  pure found

end Parser

/-- The place after the last token. -/
def placeAfter (tokens : List Token) : Position :=
  match tokens.getLast? with
  | some last => ⟨last.position.line, last.position.column + last.text.length⟩
  | none => .start

/-- The tokens before the end of the text. Without a token that marks it the end is after the last token. -/
def Input.ofTokens (tokens : List Token) : Input where
  tokens := tokens.takeWhile fun token => token.kind != .endOfFile
  finish := (tokens.find? fun token => token.kind == .endOfFile).getD ⟨.endOfFile, "", placeAfter tokens⟩

/-- Reads a statement from its tokens. -/
def parseTokens (tokens : List Token) : Except Failure Statement :=
  (Parser.script.run (.ofTokens tokens)).map Prod.fst

/-- Reads a statement. -/
def parse (text : String) : Except Failure Statement :=
  parseTokens (tokenize text)

/-- The keys of an ORDER BY clause. A key is a column and perhaps DESC. -/
def orderKeys (text : String) : List OrderKey :=
  (splitAt ',' text.toList).filterMap fun part =>
    match wordsFrom [] part with
    | [] => none
    | column :: rest =>
      some ⟨String.ofList column, rest.head?.any fun word => upper (String.ofList word) == "DESC"⟩

end Relational.Sql
