import Relational.Value

/-!
# The order of values

NULL comes before everything. Numbers are compared with a tolerance, dates and times with their like, and any
other pair by the texts that cells would hold.
-/

namespace Relational.Value

open Decimal

/-- The order of two real numbers: equal if they are closer than the tolerance. A difference that is no number
counts as greater. -/
def realOrder (x y : Float) : Ordering :=
  let difference := x - y
  if difference.abs < tolerance then .eq else if difference < 0 then .lt else .gt

/-- The order of two texts, by code points. -/
def textOrder (s t : String) : Ordering :=
  compare s t

/-- The order of data. An integer is compared with a real number as a real number. -/
def payloadOrder (p q : Payload) : Except Failure Ordering :=
  match p, q with
  | .integer m, .integer n => .ok (compare m n)
  | .integer m, .real y => (realOfInteger m).map fun x => realOrder x y
  | .real x, .integer n => (realOfInteger n).map fun y => realOrder x y
  | .real x, .real y => .ok (realOrder x y)
  | .date d, .date e => .ok (d.order e)
  | .time d, .time e => .ok (d.order e)
  | .timestamp d, .timestamp e => .ok (d.order e)
  | p, q => .ok (textOrder (payloadText p) (payloadText q))

/-- The order of two values. -/
def order (v w : Value) : Except Failure Ordering :=
  match v.payload, w.payload with
  | none, none => .ok .eq
  | none, some _ => .ok .lt
  | some _, none => .ok .gt
  | some p, some q => payloadOrder p q

end Relational.Value
