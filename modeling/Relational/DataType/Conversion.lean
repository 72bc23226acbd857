import Relational.DataType

/-!
# Conversions between types

Which values a type takes over from another, silently or by a cast, and the type two operands meet at.
-/

namespace Relational.DataType

/-- Values of `source` become values of `target` without a cast: integers widen to any number, numbers, dates
and truth values become texts, and texts are read as numbers or dates. -/
def promotes (source target : DataType) : Bool :=
  source == target
    || source.isInteger && (target.isInteger || target.isFloating)
    || source.isFloating && target.isFloating
    || target.isDecimal && (source.isInteger || source.isFloating || source.isDecimal)
    || target.isString && (source.isNumeric || source.isTemporal || source == .bool)
    || source.isString && (target.isNumeric || target.isTemporal)

/-- A cast from `source` to `target` is allowed: also between numbers and dates, from a wide number to a narrow
one, and between truth values and numbers or texts. -/
def casts (source target : DataType) : Bool :=
  source.promotes target
    || source.isNumeric && (target.isNumeric || target.isTemporal)
    || source.isTemporal && target.isNumeric
    || source == .bool && (target.isNumeric || target.isString)
    || target == .bool && (source.isNumeric || source.isString)

/-- The numeric types, the widest first. -/
def numericRank : List DataType :=
  [.double, .float, .decimal, .numeric, .bigint, .int, .smallint, .tinyint]

/-- The type at which two operands meet: their own if they agree, else the string type among them, the wider
one of two numbers, and VARCHAR for any other mix. -/
def common (left right : DataType) : DataType :=
  if left == right then left
  else if left.isString then left
  else if right.isString then right
  else if left.isNumeric && right.isNumeric then
    (numericRank.find? fun t => t == left || t == right).getD .varchar
  else .varchar

end Relational.DataType
