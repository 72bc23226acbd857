import Relational.Decimal.Binary

/-!
# The shortest decimal that reads back

`shortest` finds the fewest decimal digits that lie in the interval of real numbers rounding to a given
`Float`, and among those the nearest to it. For 1, 2, … 17 digits it tests the two neighbours of the number on
the decimal grid with that many digits, in exact arithmetic. `realText` writes the digits down.
-/

namespace Relational.Decimal

/-- `x * 2 ^ e`, `y * 10 ^ k` brought to a common denominator: the first components compare like the numbers. -/
def commonScale (x : Nat) (e : Int) (y : Nat) (k : Int) : Nat × Nat :=
  (x * twoTo e.toNat * tenTo (-k).toNat, y * tenTo k.toNat * twoTo (-e).toNat)

/-- The power of ten of the first decimal digit of `x * 2 ^ e`, for `x` not zero. -/
def leadingPlace (x : Nat) (e : Int) : Int :=
  let guess := Int.fdiv ((e + x.log2) * 30103) 100000
  let reaches (p : Int) : Bool :=
    let (v, w) := commonScale x e 1 p
    w ≤ v
  if reaches (guess + 1) then guess + 1 else if reaches guess then guess else guess - 1

/-- The numbers that round to `m * 2 ^ e`: from `low * 2 ^ (e - 2)` to `high * 2 ^ (e - 2)`, the ends among
them if `closed`. -/
structure Interval where
  low : Nat
  high : Nat
  closed : Bool

/-- The gap below a power of two is half as wide as the one above. -/
def Interval.ofMantissa (m : Nat) (e : Int) : Interval where
  low := if m = twoTo 52 && -1074 < e then 4 * m - 1 else 4 * m - 2
  high := 4 * m + 2
  closed := m % 2 == 0

/-- `c * 10 ^ k` lies in the interval around a number with exponent `e`. -/
def Interval.holds (i : Interval) (e : Int) (c : Nat) (k : Int) : Bool :=
  let (low, x) := commonScale i.low (e - 2) c k
  let (high, _) := commonScale i.high (e - 2) c k
  if i.closed then low ≤ x && x ≤ high else low < x && x < high

/-- The neighbour of `m * 2 ^ e` on the grid of multiples of `10 ^ k` that lies in the interval; of two the
nearer one, of two equally near ones the even one. -/
def gridPoint? (m : Nat) (e : Int) (k : Int) : Option Nat :=
  let i := Interval.ofMantissa m e
  let (v, unit) := commonScale m e 1 k
  let below := v / unit
  let above := below + 1
  match i.holds e below k, i.holds e above k with
  | true, true =>
    let rest := v % unit
    if 2 * rest < unit then some below
    else if unit < 2 * rest then some above
    else if below % 2 == 0 then some below else some above
  | true, false => some below
  | false, true => some above
  | false, false => none

/-- The first of the grids with `count`, `count + 1`, … digits that has a point in the interval. -/
def firstGrid (m : Nat) (e : Int) (place : Int) : Nat → Nat → Nat × Int
  | 0, count => (m, place - count)
  | fuel + 1, count =>
    let k := place - count + 1
    match gridPoint? m e k with
    | some c => (c, k)
    | none => firstGrid m e place fuel (count + 1)

/-- `c * 10 ^ k` without trailing zeros in `c`. -/
def dropZeros : Nat → Nat → Int → Nat × Int
  | 0, c, k => (c, k)
  | fuel + 1, c, k => if c % 10 == 0 && c != 0 then dropZeros fuel (c / 10) (k + 1) else (c, k)

/-- Digits `c` and place `k` of the shortest decimal `c * 10 ^ k` for the number `m * 2 ^ e`. -/
def shortest (m : Nat) (e : Int) : Nat × Int :=
  if m = 0 then (0, 0)
  else
    let (c, k) := firstGrid m e (leadingPlace m e) 17 1
    dropZeros 18 c k

/-- `count` zeros. -/
def zeros (count : Int) : List Char :=
  List.replicate count.toNat '0'

/-- An exponent: a sign and at least two digits. -/
def exponentText (e : Int) : List Char :=
  (if e < 0 then '-' else '+') :: (paddedText 2 e.natAbs).toList

/-- The digits of `c * 10 ^ k` with a point. The notation is positional if the point stands at most three
zeros before the first digit and at most at the sixteenth place after it, else it has an exponent. -/
def placePoint (c : Nat) (k : Int) : List Char :=
  let digits := natDigits c
  let point := (digits.length : Int) + k
  if point ≤ -4 || 16 < point then
    let mantissa := match digits with
      | d :: d' :: ds => d :: '.' :: d' :: ds
      | ds => ds
    mantissa ++ 'e' :: exponentText (point - 1)
  else if point ≤ 0 then '0' :: '.' :: (zeros (-point) ++ digits)
  else if 0 ≤ k then digits ++ zeros k ++ ['.', '0']
  else digits.take point.toNat ++ '.' :: digits.drop point.toNat

/-- A `Float` in the fewest digits that read back: `2.5`, `1e-05`, `5.0`, `-inf`, `nan`. -/
def realText (x : Float) : String :=
  match Binary.ofFloat? x with
  | some b =>
    let (c, k) := shortest b.mantissa b.exponent
    String.ofList ((if b.negative then ['-'] else []) ++ placePoint c k)
  | none => if x.isNaN then "nan" else if x < 0 then "-inf" else "inf"

end Relational.Decimal
