import Relational.Decimal.Shortest

/-!
# A fixed number of decimal places

`fixedText` rounds the exact value of a `Float` to a number of places, a half to the even neighbour.
-/

namespace Relational.Decimal

/-- The magnitude of a finite number in units of `10 ^ -places`, rounded. -/
def Binary.inUnits (b : Binary) (places : Nat) : Nat :=
  let n := b.mantissa * tenTo places
  if 0 ≤ b.exponent then n * twoTo b.exponent.toNat else roundHalfEven n (twoTo (-b.exponent).toNat)

/-- A number of units of `10 ^ -places` with its point; no point if there are no places. -/
def pointedText (units places : Nat) : List Char :=
  let whole := natDigits (units / tenTo places)
  if places = 0 then whole else whole ++ '.' :: paddedDigits places (units % tenTo places)

/-- A `Float` with `places` decimal places. The sign of a negative zero is kept. -/
def fixedText (x : Float) (places : Nat) : String :=
  match Binary.ofFloat? x with
  | some b => String.ofList ((if b.negative then ['-'] else []) ++ pointedText (b.inUnits places) places)
  | none => realText x

end Relational.Decimal
