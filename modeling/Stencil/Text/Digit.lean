import Stencil.Text.Basic

/-!
# Decimal digits

Every script that writes numbers to the base of ten has ten digits of its own, and their code points
follow each other from zero to nine. So the digit zero of each script is all there is to know. The
table follows Unicode 14.
-/

namespace Stencil.Text

/-- The code points of the digit zero of all scripts, in ascending order. -/
def digitZeros : List Nat :=
  [48, 1632, 1776, 1984, 2406, 2534, 2662, 2790, 2918, 3046, 3174, 3302, 3430, 3558, 3664, 3792,
   3872, 4160, 4240, 6112, 6160, 6470, 6608, 6784, 6800, 6992, 7088, 7232, 7248, 42528, 43216,
   43264, 43472, 43504, 43600, 44016, 65296, 66720, 68912, 69734, 69872, 69942, 70096, 70384,
   70736, 70864, 71248, 71360, 71472, 71904, 72016, 72784, 73040, 73120, 92768, 92864, 93008,
   120782, 120792, 120802, 120812, 120822, 123200, 123632, 125264, 130032]

/-- The value of a decimal digit of any script. -/
def digitValue? (point : CodePoint) : Option Nat :=
  (digitZeros.find? fun first => decide (first ≤ point.toNat ∧ point.toNat < first + 10)).map
    (point.toNat - ·)

/-- A decimal digit of some script. -/
def isDecimal (point : CodePoint) : Bool :=
  (digitValue? point).isSome

end Stencil.Text
