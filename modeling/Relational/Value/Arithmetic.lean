import Relational.DataType.Conversion
import Relational.Value

/-!
# Arithmetic on values

Numbers meet at their common type. Anything else, and a division by zero, gives NULL. Integers are unbounded;
one that meets a real number has to be in the range of real numbers.
-/

namespace Relational

/-- A number of either kind. -/
inductive Number where
  | integer (n : Int)
  | real (x : Float)

namespace Number

/-- The number as data. -/
def payload : Number → Payload
  | .integer n => .integer n
  | .real x => .real x

/-- The number as a real one. -/
def toReal : Number → Except Failure Float
  | .integer n => Value.realOfInteger n
  | .real x => .ok x

/-- The absolute value. -/
def abs : Number → Number
  | .integer n => .integer n.natAbs
  | .real x => .real x.abs

/-- The quotient of two integers that divide without a remainder. -/
def wholeQuotient? : Number → Number → Option Int
  | .integer m, .integer n => if m % n = 0 then some (m / n) else none
  | _, _ => none

end Number

namespace Value

/-- The number that a value holds. -/
def number? (v : Value) : Option Number :=
  match v.payload with
  | some (.integer n) => some (.integer n)
  | some (.real x) => some (.real x)
  | _ => none

/-- An operation on two numbers: on integers if both are, else on real numbers. -/
def numeric (onIntegers : Int → Int → Int) (onReals : Float → Float → Float) (v w : Value) :
    Except Failure Value :=
  let type := v.type.common w.type
  match v.number?, w.number? with
  | some (.integer m), some (.integer n) => store type (some (.integer (onIntegers m n)))
  | some p, some q => do
    let x ← p.toReal
    let y ← q.toReal
    store type (some (.real (onReals x y)))
  | _, _ => .ok (null type)

/-- The sum. -/
def add (v w : Value) : Except Failure Value :=
  numeric (· + ·) (· + ·) v w

/-- The difference. -/
def sub (v w : Value) : Except Failure Value :=
  numeric (· - ·) (· - ·) v w

/-- The product. -/
def mul (v w : Value) : Except Failure Value :=
  numeric (· * ·) (· * ·) v w

/-- The quotient. Integers that divide without a remainder give an integer, other integers a real number. -/
def div (v w : Value) : Except Failure Value :=
  let type := v.type.common w.type
  match v.number?, w.number? with
  | some p, some q => do
    let divisor ← q.toReal
    if divisor.abs < tolerance then pure (null type)
    else
      match p.wholeQuotient? q with
      | some n => store type (some (.integer n))
      | none =>
        let dividend ← p.toReal
        store (if type.isInteger then .double else type) (some (.real (dividend / divisor)))
  | _, _ => .ok (null type)

/-- The remainder of two integers, with the sign of the dividend. -/
def mod (v w : Value) : Except Failure Value :=
  let type := v.type.common w.type
  match v.payload, w.payload with
  | some (.integer m), some (.integer n) =>
    if n = 0 then .ok (null type) else store type (some (.integer (Int.tmod m n)))
  | _, _ => .ok (null type)

/-- The absolute value of a number. -/
def abs (v : Value) : Except Failure Value :=
  match v.number? with
  | some p => store v.type (some p.abs.payload)
  | none => .ok (null v.type)

end Value

end Relational
