import Stencil.Decimal.Binary64
import Stencil.Text.Basic

/-!
# The shortest decimal text of a number

A finite number is written with the fewest decimal digits that still single it out among all
numbers of its format, and among those the digits nearest to it. All reals nearer to the number
than to its neighbours are read back as the number; the midpoints between neighbours belong to the
one with the even significand. For one digit, two digits and so on, the two decimal numbers next to
the value on the grid of that many digits are tested against this interval, in exact arithmetic.
-/

namespace Stencil.Decimal

/-- Digits of a positive decimal number and the place of its point: the number is
`0.d₁d₂… · 10 ^ point`. -/
structure Digits where
  digits : Text
  point : Int
  deriving DecidableEq, Repr

/-- The reals that are read back as one number, over a common denominator. -/
structure Interval where
  low : Nat
  value : Nat
  high : Nat
  denominator : Nat
  /-- Whether the ends belong to the interval. -/
  closed : Bool

/-- The interval of a finite number. Below a power of two the neighbours are twice as dense, except
at the lower end of the format. -/
def Interval.of (number : Binary64) : Interval :=
  let quarters := 4 * number.significand
  let below := if number.fractionField = 0 ∧ 1 < number.exponentField then 1 else 2
  let closed := number.significand % 2 == 0
  match number.scale - 2 with
  | .ofNat up =>
    let factor := Nat.pow 2 up
    ⟨(quarters - below) * factor, quarters * factor, (quarters + 2) * factor, 1, closed⟩
  | .negSucc down => ⟨quarters - below, quarters, quarters + 2, Nat.pow 2 (down + 1), closed⟩

/-- Whether a fraction lies in the interval. -/
def Interval.contains (interval : Interval) (numerator denominator : Nat) : Bool :=
  let scaled := numerator * interval.denominator
  if interval.closed then
    decide (interval.low * denominator ≤ scaled ∧ scaled ≤ interval.high * denominator)
  else
    decide (interval.low * denominator < scaled ∧ scaled < interval.high * denominator)

/-- The number of decimal digits of a natural number. -/
def digitCount (number : Nat) : Nat :=
  (Nat.toDigits 10 number).length

/-- The place of the decimal point of a positive fraction: the least power of ten above it. -/
def pointOf (numerator denominator : Nat) : Int :=
  if denominator ≤ numerator then digitCount (numerator / denominator)
  else 1 - (digitCount ((denominator - 1) / numerator) : Int)

/-- The grid of `count` digits around a number below `10 ^ point`: it consists of the multiples of
`top / bottom`. -/
def gridUnit (point : Int) (count : Nat) : Nat × Nat :=
  match point - count with
  | .ofNat up => (Nat.pow 10 up, 1)
  | .negSucc down => (1, Nat.pow 10 (down + 1))

/-- The multiple of the grid's unit that is read back as the number; the nearer one if there are
two, and the even one if neither is nearer. -/
def onGrid? (interval : Interval) (point : Int) (count : Nat) : Option Nat :=
  let (top, bottom) := gridUnit point count
  let below := interval.value * bottom / (interval.denominator * top)
  let above := below + 1
  let fits (multiple : Nat) : Bool := interval.contains (multiple * top) bottom
  match fits below, fits above with
  | false, false => none
  | true, false => some below
  | false, true => some above
  | true, true =>
    let twice := 2 * interval.value * bottom
    let middle := (below + above) * top * interval.denominator
    if twice < middle then some below
    else if middle < twice then some above
    else if below % 2 = 0 then some below else some above

/-- The first grid, counted from `count` digits on, that has a fitting multiple. -/
def firstGrid (interval : Interval) (point : Int) : Nat → Nat → Nat × Nat
  | 0, count => (interval.value / interval.denominator, count)
  | further + 1, count =>
    match onGrid? interval point count with
    | some multiple => (multiple, count)
    | none => firstGrid interval point further (count + 1)

/-- Digits without the zeros at their end. -/
def dropTrailingZeros (digits : Text) : Text :=
  (digits.reverse.dropWhile (· == .char '0')).reverse

/-- The shortest digits of the magnitude of a finite number that is not zero. Seventeen digits
always suffice. -/
def shortest (number : Binary64) : Digits :=
  let interval := Interval.of number
  let point := pointOf interval.value interval.denominator
  let (multiple, count) := firstGrid interval point 17 1
  let digits := Text.ofNat multiple
  ⟨dropTrailingZeros digits, point + digits.length - count⟩

/-- How digits are laid out as text. -/
structure Layout where
  /-- The least and the greatest decimal exponent that are written without an exponent. -/
  leastPlain : Int
  greatestPlain : Int
  /-- Whether an integral number is marked by a zero after the point. -/
  marksIntegers : Bool
  /-- The least number of digits of a written exponent. -/
  exponentWidth : Nat

/-- Numbers from a ten-thousandth up to ten quadrillions are written without an exponent. -/
def Layout.standard : Layout :=
  ⟨-4, 15, true, 2⟩

/-- The parts of a complex number are written without a mark for integers. -/
def Layout.part : Layout :=
  { Layout.standard with marksIntegers := false }

/-- A number of zeros. -/
def zeros (count : Nat) : Text :=
  List.replicate count (.char '0')

/-- The written exponent: its sign and at least the least number of digits. -/
def Layout.exponent (layout : Layout) (exponent : Int) : Text :=
  let digits := Text.ofNat exponent.natAbs
  .of (if exponent < 0 then "-" else "+") ++ zeros (layout.exponentWidth - digits.length) ++ digits

/-- Digits as text. -/
def Layout.write (layout : Layout) (number : Digits) : Text :=
  let exponent := number.point - 1
  if exponent < layout.leastPlain ∨ layout.greatestPlain < exponent then
    match number.digits with
    | [] => zeros 1
    | [only] => only :: .char 'e' :: layout.exponent exponent
    | first :: more => first :: .char '.' :: more ++ .char 'e' :: layout.exponent exponent
  else
    let mark : Text := if layout.marksIntegers then .of ".0" else []
    if number.point ≤ 0 then
      .of "0." ++ zeros number.point.natAbs ++ number.digits
    else
      let whole := number.point.toNat
      if number.digits.length ≤ whole then
        number.digits ++ zeros (whole - number.digits.length) ++ mark
      else number.digits.take whole ++ .char '.' :: number.digits.drop whole

/-- The magnitude of a number as text. -/
def Layout.magnitude (layout : Layout) (number : Binary64) : Text :=
  if number.isNaN then .of "nan"
  else if !number.isFinite then .of "inf"
  else if number.isZero then .of (if layout.marksIntegers then "0.0" else "0")
  else layout.write (shortest number)

/-- A number as text. The sign of zero is shown, that of an undefined number is not. -/
def Layout.signed (layout : Layout) (number : Binary64) : Text :=
  if number.negative && !number.isNaN then .char '-' :: layout.magnitude number
  else layout.magnitude number

/-- A number as text. -/
def write (number : Binary64) : Text :=
  Layout.standard.signed number

/-- A complex number as text: in parentheses with both parts, or its imaginary part alone if the
real part is a positive zero. -/
def writeComplex (real imaginary : Binary64) : Text :=
  let imaginaryText := Layout.part.signed imaginary
  if real.isZero && !real.negative then imaginaryText ++ .of "j"
  else
    let sign : Text := if imaginary.negative && !imaginary.isNaN then [] else .of "+"
    .of "(" ++ Layout.part.signed real ++ sign ++ imaginaryText ++ .of "j)"

end Stencil.Decimal
