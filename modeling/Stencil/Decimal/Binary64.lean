/-!
# Binary floating-point numbers

A number is held as its 64 bits: a sign, 11 bits of exponent and 52 bits of fraction. Such numbers
are read, compared for equality and written, and hardly anything is computed with them. A finite
number is an integral significand times a power of two, and all questions about it are answered on
these two.
-/

namespace Stencil

/-- A binary floating-point number of 64 bits. -/
structure Binary64 where
  bits : UInt64
  deriving DecidableEq, Repr

namespace Binary64

/-- The bits of a floating-point number of the machine. -/
def ofFloat (value : Float) : Binary64 :=
  ⟨value.toBits⟩

/-- The sign bit. -/
def negative (number : Binary64) : Bool :=
  decide (Nat.pow 2 63 ≤ number.bits.toNat)

/-- The exponent as it is stored. -/
def exponentField (number : Binary64) : Nat :=
  number.bits.toNat / Nat.pow 2 52 % Nat.pow 2 11

/-- The fraction as it is stored. -/
def fractionField (number : Binary64) : Nat :=
  number.bits.toNat % Nat.pow 2 52

/-- A number is finite unless its exponent field is all ones. -/
def isFinite (number : Binary64) : Bool :=
  number.exponentField != 2047

/-- The exponent field is all ones, and the fraction is not zero. -/
def isNaN (number : Binary64) : Bool :=
  number.exponentField == 2047 && number.fractionField != 0

/-- Zero of either sign. -/
def isZero (number : Binary64) : Bool :=
  number.exponentField == 0 && number.fractionField == 0

/-- The integral significand of the magnitude of a finite number. -/
def significand (number : Binary64) : Nat :=
  if number.exponentField = 0 then number.fractionField else number.fractionField + Nat.pow 2 52

/-- The power of two that goes with the significand. -/
def scale (number : Binary64) : Int :=
  if number.exponentField = 0 then -1074 else (number.exponentField : Int) - 1075

/-- The integer that a number is equal to, if it is equal to one. -/
def toInt? (number : Binary64) : Option Int :=
  if !number.isFinite then none
  else
    let signed (magnitude : Nat) : Int := if number.negative then -magnitude else magnitude
    match number.scale with
    | .ofNat up => some (signed (number.significand * Nat.pow 2 up))
    | .negSucc down =>
      if number.significand % Nat.pow 2 (down + 1) = 0 then
        some (signed (number.significand / Nat.pow 2 (down + 1)))
      else none

/-- The infinity without a sign. -/
def infinity : Binary64 :=
  ⟨0x7ff0000000000000⟩

/-- The undefined number. -/
def undefined : Binary64 :=
  ⟨0x7ff8000000000000⟩

/-- A number without a sign, as it is or with one. -/
def withSign (isNegative : Bool) (magnitude : Binary64) : Binary64 :=
  if isNegative then ⟨magnitude.bits ||| 0x8000000000000000⟩ else magnitude

/-- The number nearest to a decimal number `digits · 10 ^ exponent` with a sign. What lies beyond
all numbers on the scale of tens is settled without computing the power. -/
def ofDecimal (isNegative : Bool) (digits : Nat) (exponent : Int) : Binary64 :=
  let length : Int := (Nat.toDigits 10 digits).length
  let magnitude :=
    if digits = 0 ∨ length + exponent < -400 then ofFloat 0
    else if 400 < length + exponent then infinity
    else ofFloat (Float.ofScientific digits (decide (exponent < 0)) exponent.natAbs)
  magnitude.withSign isNegative

/-- The number with given parts to the base of sixty, the least one first. Each product and each sum
is rounded by itself. -/
def ofSixtieths (parts : List Binary64) : Binary64 :=
  let (sum, _) := parts.foldl (fun (sum, unit) part =>
    (sum + Float.ofBits part.bits * Float.ofScientific unit false 0, unit * 60)) ((0 : Float), 1)
  ofFloat sum

end Binary64

end Stencil
