import Relational.Calendar
import Relational.DataType
import Relational.Expr
import Relational.Failure
import Relational.Json.Parser
import Relational.NullText

/-!
# Cells

A cell of a table is a text. `accepts` says which texts a column type takes, `encode` turns such a text into
the form that is stored: an integer without leading zeros, TRUE or FALSE for a truth value, a blank between a
date and a time, and no blanks around any of them. NULL is accepted by every type; whether a column takes it is
not a matter of its type.
-/

namespace Relational

open Text Decimal Calendar

/-! ## Shapes of numerals and dates -/

/-- Decimal digits of any script, at least one. -/
def isDigits (cs : List Char) : Bool :=
  !cs.isEmpty && cs.all isDecimalDigit

/-- The characters after a sign, if there is one. -/
def dropSign : List Char → List Char
  | [] => []
  | c :: cs => if c = '+' || c = '-' then cs else c :: cs

/-- Digits with at most one point, and a digit on one side of it. -/
def isPointed (cs : List Char) : Bool :=
  let whole := cs.takeWhile isDecimalDigit
  match cs.dropWhile isDecimalDigit with
  | [] => !whole.isEmpty
  | '.' :: fraction => fraction.all isDecimalDigit && !(whole.isEmpty && fraction.isEmpty)
  | _ => false

/-- The characters before an exponent, and the exponent with its mark. -/
def splitExponent (cs : List Char) : List Char × List Char :=
  (cs.takeWhile fun c => c != 'e' && c != 'E', cs.dropWhile fun c => c != 'e' && c != 'E')

/-- An exponent, or nothing. -/
def isExponent : List Char → Bool
  | [] => true
  | _ :: cs => isDigits (dropSign cs)

/-- A whole number with an optional sign. -/
def isIntegerShape (cs : List Char) : Bool :=
  isDigits (dropSign cs)

/-- A decimal number with an optional sign. -/
def isDecimalShape (cs : List Char) : Bool :=
  isPointed (dropSign cs)

/-- A decimal number with an optional sign and an optional exponent. -/
def isFloatingShape (cs : List Char) : Bool :=
  let (mantissa, exponent) := splitExponent (dropSign cs)
  isPointed mantissa && isExponent exponent

/-- Places that each take the characters of one test, and nothing after them. -/
def fillsPlaces : List (Char → Bool) → List Char → Bool
  | [], [] => true
  | p :: ps, c :: cs => p c && fillsPlaces ps cs
  | _, _ => false

/-- Places of a day: four digits, two digits, two digits. -/
def datePlaces : List (Char → Bool) :=
  [isDecimalDigit, isDecimalDigit, isDecimalDigit, isDecimalDigit, (· == '-'), isDecimalDigit, isDecimalDigit,
    (· == '-'), isDecimalDigit, isDecimalDigit]

/-- Places of a time: three times two digits. -/
def timePlaces : List (Char → Bool) :=
  [isDecimalDigit, isDecimalDigit, (· == ':'), isDecimalDigit, isDecimalDigit, (· == ':'), isDecimalDigit,
    isDecimalDigit]

/-- Places of a day and a time with a blank or a `T` between them. -/
def timestampPlaces : List (Char → Bool) :=
  datePlaces ++ (fun c => c == ' ' || c == 'T') :: timePlaces

/-- A blank for every `T`. -/
def blankForT (text : String) : String :=
  String.ofList (text.toList.map fun c => if c = 'T' then ' ' else c)

/-- The truth value that a word stands for. -/
def readBool? (text : String) : Option Bool :=
  let word := upper (strip text)
  if word == "TRUE" || word == "1" then some true
  else if word == "FALSE" || word == "0" then some false
  else none

/-- The text is a JSON object or list. -/
def isJsonDocument (text : String) : Bool :=
  match Json.parse? text with
  | some (.list _) => true
  | some (.object _) => true
  | _ => false

/-! ## The stored form -/

/-- A text other than NULL is a value of the type. `choices` are the values of an ENUM; without any it takes
every text. -/
def acceptsPresent (type : DataType) (choices : List String) (text : String) : Bool :=
  let word := strip text
  let cs := word.toList
  match type with
  | .enum => choices.isEmpty || choices.contains text
  | .json => isJsonDocument text
  | .char | .varchar | .text | .nchar | .nvarchar | .tinytext | .mediumtext | .longtext => true
  | .tinyint | .smallint | .int | .bigint => isIntegerShape cs && (readInteger? word).any type.holds
  | .decimal | .numeric => isDecimalShape cs
  | .float | .double => isFloatingShape cs
  | .bool => (readBool? word).isSome
  | .date => fillsPlaces datePlaces cs && (Date.read word).isOk
  | .time => fillsPlaces timePlaces cs && (TimeOfDay.read word).isOk
  | .datetime | .timestamp => fillsPlaces timestampPlaces cs && (Timestamp.read (blankForT word)).isOk

/-- The text is NULL or a value of the type. -/
def accepts (type : DataType) (choices : List String) (text : String) : Bool :=
  isNullText text || acceptsPresent type choices text

/-- The stored form of a text other than NULL that the type accepts. -/
def encodePresent (type : DataType) (text : String) : String :=
  let word := strip text
  match type.kind with
  | .text => text
  | .integer => (readInteger? word).elim word intText
  | .bool => boolText ((readBool? word).getD false)
  | .timestamp => blankForT word
  | .real | .date | .time => word

/-- The stored form of a text. -/
def encode (type : DataType) (choices : List String) (text : String) : Except Failure String :=
  if isNullText text then .ok nullText
  else if acceptsPresent type choices text then .ok (encodePresent type text)
  else refuse (.type (.value text type))

end Relational
