import Relational.Constraint

/-!
# Columns

A column has a type with its parameters and rules for the values in it. A value is checked for NULL, then
against the type, the length, the digits of a decimal number, and last against the CHECK condition. Rules that
need other rows are checked by the database.
-/

namespace Relational

open Text

/-- A column of a table. A column of the primary key and one declared NOT NULL are not nullable. A column that was
read from a document keeps those entries of it that are of an unusual kind, and writes them again as they were. -/
structure Column where
  name : String
  type : DataType
  nullable : Bool := true
  primaryKey : Bool := false
  unique : Bool := false
  notNull : Bool := false
  autoIncrement : Bool := false
  default : Option String := none
  maxLength : Option Int := none
  precision : Option Int := none
  scale : Option Int := none
  choices : List String := []
  check : Option String := none
  refTable : Option String := none
  refColumn : Option String := none
  description : String := ""
  written : List (String × Json) := []
  deriving Repr, DecidableEq

namespace Column

/-- A column as declared, if its name is one. -/
def declare (column : Column) : Except Failure Column := do
  checkName column.name
  pure { column with nullable := column.nullable && !column.primaryKey && !column.notNull }

/-- The column as part of the primary key. -/
def inPrimaryKey (column : Column) : Column :=
  { column with
    primaryKey := true
    nullable := false
    written := column.written.filter fun entry => entry.1 != "primaryKey" }

/-- A limit of zero is no limit. -/
def limit? (parameter : Option Int) : Option Int :=
  parameter.filter (· != 0)

/-- The type with its parameters. -/
def typeName (column : Column) : String :=
  let name := column.type.name
  let parameters : Option String :=
    if column.type == .enum && !column.choices.isEmpty then
      some (Rejection.listed (column.choices.map display))
    else
      match column.type.isDecimal, limit? column.precision with
      | true, some precision =>
        some (match column.scale with
          | some scale => Decimal.intText precision ++ "," ++ Decimal.intText scale
          | none => Decimal.intText precision)
      | _, _ => (limit? column.maxLength).map Decimal.intText
  match parameters with
  | some parameters => name ++ "(" ++ parameters ++ ")"
  | none => name

/-- The column in short: name, type and rules. -/
def summary (column : Column) : String :=
  let flags := [(column.primaryKey, "PRIMARY KEY"), (column.unique, "UNIQUE"), (column.notNull, "NOT NULL"),
    (column.autoIncrement, "AUTO_INCREMENT")]
  let shown := flags.filterMap fun (flag, word) => if flag then some word else none
  "Column(" ++ Rejection.listed ([column.name, column.typeName] ++
    if shown.isEmpty then [] else [Rejection.listed shown]) ++ ")"

/-- The text that a new row has in the column unless it names one. The name of a clock function stands for its
value. -/
def defaultText (now : Timestamp) (column : Column) : String :=
  match column.default with
  | none => nullText
  | some text =>
    let name := (upper text).toList
    let function := if ['(', ')'].isSuffixOf name then name.take (name.length - 2) else name
    match clockValue? now (String.ofList function) with
    | some v => v.toText
    | none => text

/-! ## Checking a value -/

/-- The digits of a decimal number before the point, without leading zeros, and after it. -/
def decimalDigits (text : String) : Nat × Nat :=
  let digits := (strip text).toList.dropWhile fun c => c == '+' || c == '-'
  let whole := (digits.takeWhile (· != '.')).dropWhile (· == '0')
  let fraction := (digits.dropWhile (· != '.')).drop 1
  (whole.length, fraction.length)

/-- Checks the number of digits of a decimal number. -/
def checkDigits (column : Column) (text : String) : Except Failure Unit := do
  let (whole, fraction) := decimalDigits text
  if let some limit := limit? column.precision then
    if limit < Int.ofNat (whole + fraction) then reject (.cellPrecision (whole + fraction) limit)
  if let some limit := column.scale then
    if limit < Int.ofNat fraction then reject (.cellScale fraction limit)

/-- Checks the CHECK condition. It sees the value under the name of the column and as `value`, and the other
values of the row. -/
def checkValue (column : Column) (now : Timestamp) (row : List (String × Value)) (text : String) :
    Except Failure Unit :=
  match column.check with
  | none => .ok ()
  | some condition =>
    if condition.isEmpty then .ok ()
    else
      let typed := Value.ofText column.type text
      checkCondition condition (.ofValues (("value", typed) :: (lower column.name, typed) :: row) now)

/-- Checks a value, beside the typed values of its row. -/
def validate (column : Column) (now : Timestamp) (row : List (String × Value)) (text : String) :
    Except Failure Unit := do
  if isNullText text then
    if column.primaryKey then reject (.keyCellNull (some column.name))
    else if !column.nullable then reject (.cellNull (some column.name))
    else pure ()
  else
    if !accepts column.type column.choices text then reject (.cellType text column.typeName)
    if column.type.isString then
      if let some limit := limit? column.maxLength then
        if limit < Int.ofNat text.length then reject (.cellLength limit)
    if column.type.isDecimal then column.checkDigits text
    column.checkValue now row text

/-! ## Documents -/

/-- The column as a document. -/
def toJson (column : Column) : Json :=
  .object (Json.restore column.written [("name", .text column.name), ("type", .text column.type.name),
    ("nullable", .bool column.nullable), ("primaryKey", .bool column.primaryKey),
    ("unique", .bool column.unique), ("notNull", .bool column.notNull),
    ("autoIncrement", .bool column.autoIncrement), ("defaultValue", .ofText? column.default),
    ("maxLength", .ofInt? column.maxLength), ("precision", .ofInt? column.precision),
    ("scale", .ofInt? column.scale), ("enumValues", .ofTexts column.choices),
    ("checkCondition", .ofText? column.check), ("foreignKeyTable", .ofText? column.refTable),
    ("foreignKeyColumn", .ofText? column.refColumn), ("description", .text column.description)])

/-- The type with a name. -/
def readType (name : String) : Except Failure DataType :=
  match DataType.ofName? name with
  | some type => .ok type
  | none => refuse (.type (.unknown name))

/-- The values of an ENUM in a document. -/
def readChoices (document : Json) : Except Failure (List String × List (String × Json)) :=
  match document.field? "enumValues" with
  | none => .ok ([], [])
  | some (.list items) =>
    match items.mapM Json.asText with
    | .ok choices => .ok (choices, [])
    | .error _ => .ok (items.map Json.shown, [("enumValues", .list items)])
  | some value => do pure (← value.names, [])

/-- Reads a column. Only its name and its type have to be there. -/
def ofJson (document : Json) : Except Failure Column := do
  let name ← document.require "name"
  let type ← readType (← (← document.require "type").asText)
  let primaryKey := document.flag "primaryKey"
  let unique := document.flag "unique"
  let notNull := document.flag "notNull"
  let autoIncrement := document.flag "autoIncrement"
  let default := document.text? "defaultValue"
  let maxLength := document.int? "maxLength"
  let precision := document.int? "precision"
  let scale := document.int? "scale"
  let choices ← readChoices document
  let check := document.text? "checkCondition"
  let refTable := document.text? "foreignKeyTable"
  let refColumn := document.text? "foreignKeyColumn"
  let description := document.remark "description"
  let nullable := (document.field? "nullable").elim true Json.isTruthy
  declare ⟨← name.asName, type, nullable, primaryKey.1, unique.1, notNull.1, autoIncrement.1, default.1,
    maxLength.1, precision.1, scale.1, choices.1, check.1, refTable.1, refColumn.1, description.1,
    primaryKey.2 ++ unique.2 ++ notNull.2 ++ autoIncrement.2 ++ default.2 ++ maxLength.2 ++ precision.2 ++ scale.2
      ++ choices.2 ++ check.2 ++ refTable.2 ++ refColumn.2 ++ description.2⟩

end Column

end Relational
