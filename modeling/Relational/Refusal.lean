import Relational.Condition.Token
import Relational.DataType
import Relational.Decimal.Numeral
import Relational.Name
import Relational.Sql.Token
import Relational.Text.Quoted

/-!
# Refusals

What is wrong with a request that the program does not carry out, and how the user is told.
-/

namespace Relational

open Text

/-- Why a type does not take a value. -/
inductive TypeFault where
  | unknown (name : String)
  | conversion (source target : DataType)
  | payload (stored : Option Kind) (type : DataType)
  | value (text : String) (type : DataType)
  deriving Repr, DecidableEq

/-- Data of a kind as messages name it. -/
def Kind.dataName : Kind → String
  | .integer => "int"
  | .real => "float"
  | .text => "str"
  | .bool => "bool"
  | .date => "date"
  | .time => "time"
  | .timestamp => "datetime"

/-- A type fault in words. -/
def TypeFault.message : TypeFault → String
  | .unknown name => "Unknown data type: " ++ name
  | .conversion source target => "Cannot convert " ++ source.name ++ " to " ++ target.name
  | .payload stored type =>
    "Cannot store " ++ (stored.elim "NoneType" Kind.dataName) ++ " in a " ++ type.name ++ " value"
  | .value text type => "Invalid value '" ++ text ++ "' for type " ++ type.name

/-- What is inconsistent in a table definition. -/
inductive SchemaFault where
  | duplicateColumn (column table : String)
  | noColumns (what : String)
  | unknownColumn (what column table : String)
  | duplicateConstraint (name table : String)
  | keyLength
  | duplicateIndex (name table : String)
  | typeParameter (text column : String)
  deriving Repr, DecidableEq

/-- A schema fault in words. -/
def SchemaFault.message : SchemaFault → String
  | .duplicateColumn column table => "Duplicate column '" ++ column ++ "' in table '" ++ table ++ "'"
  | .noColumns what => what ++ " needs at least one column"
  | .unknownColumn what column table =>
    what ++ " references unknown column '" ++ column ++ "' in table '" ++ table ++ "'"
  | .duplicateConstraint name table => "Duplicate constraint name '" ++ name ++ "' in table '" ++ table ++ "'"
  | .keyLength => "Foreign key column count mismatch"
  | .duplicateIndex name table => "Index '" ++ name ++ "' already exists on table '" ++ table ++ "'"
  | .typeParameter text column => "Invalid type parameter '" ++ text ++ "' for column '" ++ column ++ "'"

/-- What is wrong with a step of a transaction. -/
inductive TransactionFault where
  | open
  | closed
  | rollback
  deriving Repr, DecidableEq

/-- A transaction fault in words. -/
def TransactionFault.message : TransactionFault → String
  | .open => "A transaction is already in progress"
  | .closed => "No transaction in progress"
  | .rollback => "ROLLBACK is not supported: changes are persisted as each statement runs"

/-- What the program cannot do. -/
inductive Feature where
  | alterTable
  | join
  | function (name : String) (arguments : Nat)
  deriving Repr, DecidableEq

/-- A feature in words. -/
def Feature.message : Feature → String
  | .alterTable => "ALTER TABLE"
  | .join => "JOIN"
  | .function name arguments =>
    "Function " ++ name ++ " with " ++ Decimal.natText arguments ++ " argument(s)"

/-- What is wrong with a file: it cannot be read or written, or it describes no table. -/
inductive StorageFault where
  | inaccessible
  | invalidSchema (reason : String)
  deriving Repr, DecidableEq

/-- A storage fault in words. -/
def StorageFault.message : StorageFault → String
  | .inaccessible => "the file cannot be read or written"
  | .invalidSchema reason => "invalid schema: " ++ reason

/-- What the program refuses. -/
inductive Refusal where
  | syntaxError (fault : Sql.SyntaxFault)
  | condition (text : Option String) (fault : Condition.Fault)
  | noTable (name : String)
  | tableExists (name : String)
  | noColumn (name : String) (table : Option String)
  | type (fault : TypeFault)
  | columnCount (expected given : Nat)
  | storage (path : String) (fault : StorageFault)
  | transaction (fault : TransactionFault)
  | unsupported (feature : Feature)
  | name (written : String) (fault : Name.Fault)
  | schema (fault : SchemaFault)
  deriving Repr, DecidableEq

/-- The characters up to the first line end. -/
def firstLine (s : String) : String :=
  String.ofList (s.toList.takeWhile fun c => !isLineEnd c)

/-- Why a text is no condition. -/
def Condition.Fault.message : Condition.Fault → String
  | .blank => "empty condition"
  | .noTerminal c position =>
    firstLine ("No terminal matches '" ++ String.singleton c ++ "' in the current parser context, at line "
      ++ Decimal.natText position.line ++ " col " ++ Decimal.natText position.column)
  | .unexpected token =>
    "Unexpected token Token(" ++ display token.terminal.label ++ ", " ++ display (String.ofList token.text)
      ++ ") at line " ++ Decimal.natText token.position.line ++ ", column " ++ Decimal.natText token.position.column ++ "."

/-- What was found in place of what a statement needs. -/
def Sql.SyntaxFault.message (fault : Sql.SyntaxFault) : String :=
  "Expected " ++ fault.expected ++ " but got " ++ fault.token.kind.name ++ " (\"" ++ fault.token.text
    ++ "\") at line " ++ Decimal.natText fault.token.position.line ++ " col " ++ Decimal.natText fault.token.position.column

/-- A refusal in words. -/
def Refusal.message : Refusal → String
  | .syntaxError fault => fault.message
  | .condition text fault => "Invalid condition '" ++ text.getD "None" ++ "': " ++ fault.message
  | .noTable table => "Table '" ++ table ++ "' does not exist"
  | .tableExists table => "Table '" ++ table ++ "' already exists"
  | .noColumn column table =>
    "Column '" ++ column ++ "' does not exist" ++
      (match table with
        | some table => if table.isEmpty then "" else " in table '" ++ table ++ "'"
        | none => "")
  | .type fault => fault.message
  | .columnCount expected given =>
    "Column count mismatch: expected " ++ Decimal.natText expected ++ ", got " ++ Decimal.natText given
  | .storage path fault => "Storage error for '" ++ path ++ "': " ++ fault.message
  | .transaction fault => fault.message
  | .unsupported feature => feature.message ++ " is not supported"
  | .name written fault => "Invalid identifier '" ++ written ++ "': " ++ fault.message
  | .schema fault => fault.message

end Relational
