import Relational.Decimal.Power
import Relational.Text.Blank
import Relational.Text.Case

/-!
# Column types

The types a column can have, their families, and the kind of data their values carry.
-/

namespace Relational

/-- The kinds of data. -/
inductive Kind where
  | integer
  | real
  | text
  | bool
  | date
  | time
  | timestamp
  deriving Repr, DecidableEq, Inhabited

/-- The types of columns. -/
inductive DataType where
  | tinyint
  | smallint
  | int
  | bigint
  | decimal
  | numeric
  | float
  | double
  | char
  | varchar
  | text
  | nchar
  | nvarchar
  | tinytext
  | mediumtext
  | longtext
  | enum
  | bool
  | json
  | date
  | time
  | datetime
  | timestamp
  deriving Repr, DecidableEq, Inhabited

namespace DataType

/-- Every type, in the order of listings. -/
def all : List DataType :=
  [.tinyint, .smallint, .int, .bigint, .decimal, .numeric, .float, .double, .char, .varchar, .text, .nchar,
    .nvarchar, .tinytext, .mediumtext, .longtext, .enum, .bool, .json, .date, .time, .datetime, .timestamp]

/-- The name of a type. -/
def name : DataType → String
  | .tinyint => "TINYINT"
  | .smallint => "SMALLINT"
  | .int => "INT"
  | .bigint => "BIGINT"
  | .decimal => "DECIMAL"
  | .numeric => "NUMERIC"
  | .float => "FLOAT"
  | .double => "DOUBLE"
  | .char => "CHAR"
  | .varchar => "VARCHAR"
  | .text => "TEXT"
  | .nchar => "NCHAR"
  | .nvarchar => "NVARCHAR"
  | .tinytext => "TINYTEXT"
  | .mediumtext => "MEDIUMTEXT"
  | .longtext => "LONGTEXT"
  | .enum => "ENUM"
  | .bool => "BOOL"
  | .json => "JSON"
  | .date => "DATE"
  | .time => "TIME"
  | .datetime => "DATETIME"
  | .timestamp => "TIMESTAMP"

/-- Second names of types. -/
def aliases : List (String × DataType) :=
  [("INTEGER", .int), ("BOOLEAN", .bool), ("REAL", .double)]

/-- The type with the given name, in any case, with blanks around it. -/
def ofName? (written : String) : Option DataType :=
  let wanted := Text.upper (Text.strip written)
  (aliases.lookup wanted).or (all.find? fun t => t.name == wanted)

/-! ## Families -/

/-- Whole numbers of a fixed width. -/
def isInteger : DataType → Bool
  | .tinyint | .smallint | .int | .bigint => true
  | _ => false

/-- Binary floating point numbers. -/
def isFloating : DataType → Bool
  | .float | .double => true
  | _ => false

/-- Decimal numbers with a precision and a scale. -/
def isDecimal : DataType → Bool
  | .decimal | .numeric => true
  | _ => false

/-- Numbers. -/
def isNumeric (t : DataType) : Bool :=
  t.isInteger || t.isFloating || t.isDecimal

/-- Types whose values are texts. -/
def isString : DataType → Bool
  | .char | .varchar | .text | .nchar | .nvarchar | .tinytext | .mediumtext | .longtext | .enum | .json => true
  | _ => false

/-- Dates and times. -/
def isTemporal : DataType → Bool
  | .date | .time | .datetime | .timestamp => true
  | _ => false

/-- Texts of great length. -/
def isBlob : DataType → Bool
  | .mediumtext | .longtext | .json => true
  | _ => false

/-- String types that take a length. -/
def hasLength : DataType → Bool
  | .char | .varchar | .nchar | .nvarchar => true
  | _ => false

/-- The kind of data that values of a type carry. -/
def kind : DataType → Kind
  | .tinyint | .smallint | .int | .bigint => .integer
  | .decimal | .numeric | .float | .double => .real
  | .bool => .bool
  | .date => .date
  | .time => .time
  | .datetime | .timestamp => .timestamp
  | .char | .varchar | .text | .nchar | .nvarchar | .tinytext | .mediumtext | .longtext | .enum | .json => .text

/-- The binary width of the integer types. -/
def bits : DataType → Nat
  | .tinyint => 8
  | .smallint => 16
  | .bigint => 64
  | _ => 32

/-- The integers that an integer type holds. -/
def holds (t : DataType) (n : Int) : Bool :=
  -(Decimal.twoTo (t.bits - 1) : Int) ≤ n && n < Decimal.twoTo (t.bits - 1)

/-- The nominal size in bytes. -/
def size : DataType → Nat
  | .tinyint => 1
  | .smallint => 2
  | .int => 4
  | .bigint => 8
  | .decimal => 16
  | .numeric => 16
  | .float => 4
  | .double => 8
  | .char => 1
  | .varchar => 255
  | .text => 65535
  | .nchar => 2
  | .nvarchar => 510
  | .tinytext => 255
  | .mediumtext => 16777215
  | .longtext => 4294967295
  | .enum => 2
  | .bool => 1
  | .json => 4294967295
  | .date => 3
  | .time => 3
  | .datetime => 8
  | .timestamp => 4

/-- A type in words. -/
def description : DataType → String
  | .tinyint => "Very small integer (-128 to 127)"
  | .smallint => "Small integer (-32768 to 32767)"
  | .int => "Standard integer (-2147483648 to 2147483647)"
  | .bigint => "Large integer (64-bit)"
  | .decimal => "Fixed-point number with precision and scale"
  | .numeric => "Fixed-point number with precision and scale"
  | .float => "Single-precision floating point number"
  | .double => "Double-precision floating point number"
  | .char => "Fixed-length character string"
  | .varchar => "Variable-length character string"
  | .text => "Text string up to 64KB"
  | .nchar => "Fixed-length Unicode string"
  | .nvarchar => "Variable-length Unicode string"
  | .tinytext => "Text string up to 255 characters"
  | .mediumtext => "Text string up to 16MB"
  | .longtext => "Text string up to 4GB"
  | .enum => "One value from a fixed list of strings"
  | .bool => "Boolean value (TRUE or FALSE)"
  | .json => "JSON object or array"
  | .date => "Date (YYYY-MM-DD)"
  | .time => "Time of day (HH:MM:SS)"
  | .datetime => "Date and time (YYYY-MM-DD HH:MM:SS)"
  | .timestamp => "Timestamp (YYYY-MM-DD HH:MM:SS)"

end DataType

end Relational
