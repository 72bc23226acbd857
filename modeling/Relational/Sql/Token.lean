import Relational.Text.Case
import Relational.Text.Position

/-!
# Tokens of statements

A token is a keyword, an identifier, a literal or a symbol, with the text it was written as and its position.
Keywords are recognised in any case. Some of them may still name a table or a column.
-/

namespace Relational.Sql

/-- The words with a meaning of their own. -/
inductive Keyword where
  | SELECT
  | FROM
  | WHERE
  | INSERT
  | INTO
  | VALUES
  | UPDATE
  | SET
  | DELETE
  | CREATE
  | TABLE
  | ALTER
  | ADD
  | MODIFY
  | COLUMN
  | DROP
  | INDEX
  | ON
  | JOIN
  | INNER
  | LEFT
  | RIGHT
  | FULL
  | OUTER
  | CROSS
  | ORDER
  | BY
  | ASC
  | DESC
  | LIMIT
  | IF
  | EXISTS
  | BEGIN
  | TRANSACTION
  | COMMIT
  | ROLLBACK
  | PRIMARY
  | KEY
  | FOREIGN
  | REFERENCES
  | UNIQUE
  | CHECK
  | DEFAULT
  | CONSTRAINT
  | AUTO_INCREMENT
  | CASCADE
  | RESTRICT
  | AND
  | OR
  | NOT
  | IS
  | IN
  | LIKE
  | TINYINT
  | SMALLINT
  | INT
  | INTEGER
  | BIGINT
  | DECIMAL
  | NUMERIC
  | FLOAT
  | DOUBLE
  | REAL
  | CHAR
  | VARCHAR
  | TEXT
  | NCHAR
  | NVARCHAR
  | TINYTEXT
  | MEDIUMTEXT
  | LONGTEXT
  | ENUM
  | BOOL
  | BOOLEAN
  | JSON
  | DATE
  | TIME
  | DATETIME
  | TIMESTAMP
  | TRUE
  | FALSE
  | NULL
  deriving Repr, DecidableEq

namespace Keyword

/-- Every keyword. -/
def all : List Keyword :=
  [.SELECT, .FROM, .WHERE, .INSERT, .INTO, .VALUES, .UPDATE, .SET, .DELETE, .CREATE, .TABLE, .ALTER, .ADD,
    .MODIFY, .COLUMN, .DROP, .INDEX, .ON, .JOIN, .INNER, .LEFT, .RIGHT, .FULL, .OUTER, .CROSS, .ORDER, .BY,
    .ASC, .DESC, .LIMIT, .IF, .EXISTS, .BEGIN, .TRANSACTION, .COMMIT, .ROLLBACK, .PRIMARY, .KEY, .FOREIGN,
    .REFERENCES, .UNIQUE, .CHECK, .DEFAULT, .CONSTRAINT, .AUTO_INCREMENT, .CASCADE, .RESTRICT, .AND, .OR, .NOT,
    .IS, .IN, .LIKE, .TINYINT, .SMALLINT, .INT, .INTEGER, .BIGINT, .DECIMAL, .NUMERIC, .FLOAT, .DOUBLE, .REAL,
    .CHAR, .VARCHAR, .TEXT, .NCHAR, .NVARCHAR, .TINYTEXT, .MEDIUMTEXT, .LONGTEXT, .ENUM, .BOOL, .BOOLEAN,
    .JSON, .DATE, .TIME, .DATETIME, .TIMESTAMP, .TRUE, .FALSE, .NULL]

/-- A keyword in capitals. -/
def name : Keyword → String
  | .SELECT => "SELECT"
  | .FROM => "FROM"
  | .WHERE => "WHERE"
  | .INSERT => "INSERT"
  | .INTO => "INTO"
  | .VALUES => "VALUES"
  | .UPDATE => "UPDATE"
  | .SET => "SET"
  | .DELETE => "DELETE"
  | .CREATE => "CREATE"
  | .TABLE => "TABLE"
  | .ALTER => "ALTER"
  | .ADD => "ADD"
  | .MODIFY => "MODIFY"
  | .COLUMN => "COLUMN"
  | .DROP => "DROP"
  | .INDEX => "INDEX"
  | .ON => "ON"
  | .JOIN => "JOIN"
  | .INNER => "INNER"
  | .LEFT => "LEFT"
  | .RIGHT => "RIGHT"
  | .FULL => "FULL"
  | .OUTER => "OUTER"
  | .CROSS => "CROSS"
  | .ORDER => "ORDER"
  | .BY => "BY"
  | .ASC => "ASC"
  | .DESC => "DESC"
  | .LIMIT => "LIMIT"
  | .IF => "IF"
  | .EXISTS => "EXISTS"
  | .BEGIN => "BEGIN"
  | .TRANSACTION => "TRANSACTION"
  | .COMMIT => "COMMIT"
  | .ROLLBACK => "ROLLBACK"
  | .PRIMARY => "PRIMARY"
  | .KEY => "KEY"
  | .FOREIGN => "FOREIGN"
  | .REFERENCES => "REFERENCES"
  | .UNIQUE => "UNIQUE"
  | .CHECK => "CHECK"
  | .DEFAULT => "DEFAULT"
  | .CONSTRAINT => "CONSTRAINT"
  | .AUTO_INCREMENT => "AUTO_INCREMENT"
  | .CASCADE => "CASCADE"
  | .RESTRICT => "RESTRICT"
  | .AND => "AND"
  | .OR => "OR"
  | .NOT => "NOT"
  | .IS => "IS"
  | .IN => "IN"
  | .LIKE => "LIKE"
  | .TINYINT => "TINYINT"
  | .SMALLINT => "SMALLINT"
  | .INT => "INT"
  | .INTEGER => "INTEGER"
  | .BIGINT => "BIGINT"
  | .DECIMAL => "DECIMAL"
  | .NUMERIC => "NUMERIC"
  | .FLOAT => "FLOAT"
  | .DOUBLE => "DOUBLE"
  | .REAL => "REAL"
  | .CHAR => "CHAR"
  | .VARCHAR => "VARCHAR"
  | .TEXT => "TEXT"
  | .NCHAR => "NCHAR"
  | .NVARCHAR => "NVARCHAR"
  | .TINYTEXT => "TINYTEXT"
  | .MEDIUMTEXT => "MEDIUMTEXT"
  | .LONGTEXT => "LONGTEXT"
  | .ENUM => "ENUM"
  | .BOOL => "BOOL"
  | .BOOLEAN => "BOOLEAN"
  | .JSON => "JSON"
  | .DATE => "DATE"
  | .TIME => "TIME"
  | .DATETIME => "DATETIME"
  | .TIMESTAMP => "TIMESTAMP"
  | .TRUE => "TRUE"
  | .FALSE => "FALSE"
  | .NULL => "NULL"

/-- The keyword that a word spells, in any case. `AUTOINCREMENT` is a second spelling of `AUTO_INCREMENT`. -/
def ofWord? (word : String) : Option Keyword :=
  let capital := Text.upper word
  if capital == "AUTOINCREMENT" then some .AUTO_INCREMENT else all.find? fun k => k.name == capital

/-- Keywords that name a column type. -/
def isType : Keyword → Bool
  | .TINYINT | .SMALLINT | .INT | .INTEGER | .BIGINT | .DECIMAL | .NUMERIC | .FLOAT | .DOUBLE | .REAL | .CHAR |
  .VARCHAR | .TEXT | .NCHAR | .NVARCHAR | .TINYTEXT | .MEDIUMTEXT | .LONGTEXT | .ENUM | .BOOL | .BOOLEAN |
  .JSON | .DATE | .TIME | .DATETIME | .TIMESTAMP => true
  | _ => false

/-- Keywords that may name a table or a column. -/
def mayName : Keyword → Bool
  | .KEY | .ADD | .MODIFY | .COLUMN | .ASC | .DESC | .TRANSACTION | .CASCADE | .RESTRICT | .IF | .EXISTS |
  .FULL | .OUTER | .CROSS | .LEFT | .RIGHT => true
  | k => k.isType

end Keyword

/-- The kinds of tokens. -/
inductive TokenKind where
  | keyword (word : Keyword)
  | identifier
  | number
  | string
  | equals
  | notEquals
  | less
  | lessEqual
  | greater
  | greaterEqual
  | plus
  | minus
  | asterisk
  | divide
  | percent
  | leftParen
  | rightParen
  | comma
  | semicolon
  | dot
  | endOfFile
  | unknown
  deriving Repr, DecidableEq

namespace TokenKind

/-- Every kind. -/
def all : List TokenKind :=
  Keyword.all.map .keyword ++
    [.identifier, .number, .string, .equals, .notEquals, .less, .lessEqual, .greater, .greaterEqual, .plus, .minus,
      .asterisk, .divide, .percent, .leftParen, .rightParen, .comma, .semicolon, .dot, .endOfFile, .unknown]

/-- The name of a kind in messages. -/
def name : TokenKind → String
  | .keyword word => word.name
  | .identifier => "IDENTIFIER"
  | .number => "NUMBER"
  | .string => "STRING"
  | .equals => "EQUALS"
  | .notEquals => "NOT_EQUALS"
  | .less => "LESS"
  | .lessEqual => "LESS_EQUAL"
  | .greater => "GREATER"
  | .greaterEqual => "GREATER_EQUAL"
  | .plus => "PLUS"
  | .minus => "MINUS"
  | .asterisk => "ASTERISK"
  | .divide => "DIVIDE"
  | .percent => "PERCENT"
  | .leftParen => "LPAREN"
  | .rightParen => "RPAREN"
  | .comma => "COMMA"
  | .semicolon => "SEMICOLON"
  | .dot => "DOT"
  | .endOfFile => "END_OF_FILE"
  | .unknown => "UNKNOWN"

/-- The kind names a table or a column. -/
def isName : TokenKind → Bool
  | .identifier => true
  | .keyword word => word.mayName
  | _ => false

end TokenKind

/-- A token and its place. The text of a string has no quotes. -/
structure Token where
  kind : TokenKind
  text : String
  position : Text.Position
  deriving Repr, DecidableEq

/-- A token that does not fit what is expected. -/
structure SyntaxFault where
  expected : String
  token : Token
  deriving Repr, DecidableEq

end Relational.Sql
