import Relational.Decimal.Numeral

/-!
# Binary floating point numbers, exactly

A finite `Float` is `mantissa * 2 ^ exponent`. `Binary.ofFloat?` takes one apart, `nearest` rounds a quotient
of natural numbers to the nearest one, half to even, all by arithmetic on natural numbers. Integers and
numerals are turned into a `Float` through `nearest` alone.
-/

namespace Relational.Decimal

/-- A finite binary floating point number: `mantissa * 2 ^ exponent`, negated if `negative`. -/
structure Binary where
  negative : Bool
  mantissa : Nat
  exponent : Int
  deriving Repr, DecidableEq

/-- The parts of a finite number; none of an infinity or of NaN. A subnormal number has the least exponent
and no hidden bit. -/
def Binary.ofFloat? (x : Float) : Option Binary :=
  let bits : Nat := x.toBits.toNat
  let negative := bits / twoTo 63 == 1
  let biased : Nat := bits / twoTo 52 % twoTo 11
  let fraction : Nat := bits % twoTo 52
  if biased == 2047 then none
  else if biased == 0 then some ⟨negative, fraction, -1074⟩
  else some ⟨negative, twoTo 52 + fraction, Int.ofNat biased - 1075⟩

/-- `num / den` rounded to an integer, a half to the even neighbour. -/
def roundHalfEven (num den : Nat) : Nat :=
  let q := num / den
  let r := num % den
  if 2 * r < den then q
  else if den < 2 * r then q + 1
  else if q % 2 == 0 then q else q + 1

/-- `num / den / 2 ^ e` as a quotient of natural numbers. -/
def scaleDown (num den : Nat) (e : Int) : Nat × Nat :=
  if 0 ≤ e then (num, den * twoTo e.toNat) else (num * twoTo (-e).toNat, den)

/-- The bits of the number nearest to `num / den`, without a sign. The exponent is the one at which the
quotient has 53 binary digits, or the least one. -/
def nearestBits (num den : Nat) : Nat :=
  if num = 0 then 0
  else
    let low : Int := max (-1074) ((num.log2 : Int) - den.log2 - 53)
    let (n, d) := scaleDown num den low
    let e := if n / d < twoTo 53 then low else low + 1
    let (n, d) := scaleDown num den e
    min ((e + 1074).toNat * twoTo 52 + roundHalfEven n d) (2047 * twoTo 52)

/-- The `Float` nearest to `num / den`, a half to the even neighbour; an infinity beyond the range. -/
def nearest (negative : Bool) (num den : Nat) : Float :=
  Float.ofBits (UInt64.ofNat (nearestBits num den + if negative then twoTo 63 else 0))

/-- The nearest `Float` to an integer, or none beyond the range. -/
def floatOfInt? (n : Int) : Option Float :=
  if nearestBits n.natAbs 1 < 2047 * twoTo 52 then some (nearest (n < 0) n.natAbs 1) else none

/-- The number of decimal digits of `n`. -/
def digitCount (n : Nat) : Nat :=
  (natDigits n).length

/-- The nearest `Float` to what a numeral says. A numeral far beyond the range is settled by the place of its
first digit, without computing the power of ten. -/
def RealNumeral.toFloat : RealNumeral → Float
  | .nan => Float.ofBits 0x7ff8000000000000
  | .infinite negative => Float.ofBits (if negative then 0xfff0000000000000 else 0x7ff0000000000000)
  | .finite negative coefficient exponent =>
    let place := (digitCount coefficient : Int) + exponent
    if coefficient = 0 || place < -400 then nearest negative 0 1
    else if 400 < place then nearest negative (tenTo 400) 1
    else if 0 ≤ exponent then nearest negative (coefficient * tenTo exponent.toNat) 1
    else nearest negative coefficient (tenTo (-exponent).toNat)

/-- A real numeral as the nearest `Float`. -/
def readFloat? (s : String) : Option Float :=
  (readReal? s).map RealNumeral.toFloat

/-- The magnitude of a finite number, cut to an integer. -/
def Binary.truncatedMagnitude (b : Binary) : Nat :=
  if 0 ≤ b.exponent then b.mantissa * twoTo b.exponent.toNat else b.mantissa / twoTo (-b.exponent).toNat

/-- A finite number cut to an integer, toward zero. -/
def Binary.truncate (b : Binary) : Int :=
  if b.negative then -(b.truncatedMagnitude : Int) else b.truncatedMagnitude

/-- The number has no fractional part. -/
def Binary.isWhole (b : Binary) : Bool :=
  0 ≤ b.exponent || b.mantissa % twoTo (-b.exponent).toNat == 0

end Relational.Decimal
