import Stencil.Decimal.Binary64
import Stencil.Text.Digit
import Stencil.Text.Space

/-!
# Reading decimal numerals

A numeral is a sign, digits with an optional point among them, and an optional exponent. The parts
are read one after the other; each reader takes as many digits as there are and returns the rest.
-/

namespace Stencil.Decimal

/-- The value of decimal digits that continue a number already read. -/
def valueOf (start : Nat) (digits : Text) : Nat :=
  digits.foldl (fun value digit => value * 10 + (digit.toNat - '0'.toNat)) start

/-- The digits that a text begins with, and the rest. -/
def digits (text : Text) : Text × Text :=
  text.span CodePoint.isDigit

/-- A leading minus sign, and the rest. -/
def minus : Text → Bool × Text
  | .char '-' :: rest => (true, rest)
  | text => (false, text)

/-- A leading sign, and the rest. -/
def sign : Text → Bool × Text
  | .char '+' :: rest => (false, rest)
  | text => minus text

/-- The most digits of an integer in decimal. Reading them takes a time that grows with the square
of their number, so more are refused. -/
def digitLimit : Nat := 4300

/-- An unsigned numeral in its parts. -/
structure Numeral where
  whole : Text
  fraction : Option Text
  /-- The exponent with its sign. -/
  exponent : Option (Bool × Text)
  deriving DecidableEq, Repr

namespace Numeral

/-- A numeral without fraction and exponent is an integer. -/
def isInteger (numeral : Numeral) : Bool :=
  numeral.fraction.isNone && numeral.exponent.isNone

/-- The magnitude of an integral numeral. -/
def magnitude (numeral : Numeral) : Nat :=
  valueOf 0 numeral.whole

/-- The number nearest to a numeral with a sign. -/
def toBinary64 (isNegative : Bool) (numeral : Numeral) : Binary64 :=
  let fraction := numeral.fraction.getD []
  let shift : Int := match numeral.exponent with
    | none => 0
    | some (true, digits) => -(valueOf 0 digits : Int)
    | some (false, digits) => valueOf 0 digits
  Binary64.ofDecimal isNegative (valueOf (valueOf 0 numeral.whole) fraction)
    (shift - fraction.length)

end Numeral

/-- The fraction that a text begins with: a point and at least `least` digits. -/
def fraction (least : Nat) : Text → Option Text × Text
  | .char '.' :: rest =>
    let (found, after) := digits rest
    if least ≤ found.length then (some found, after) else (none, .char '.' :: rest)
  | text => (none, text)

/-- The exponent that a text begins with: its letter, a sign, and at least one digit. -/
def exponent : Text → Option (Bool × Text) × Text
  | [] => (none, [])
  | first :: rest =>
    if first = .char 'e' ∨ first = .char 'E' then
      let (isNegative, unsigned) := sign rest
      match digits unsigned with
      | ([], _) => (none, first :: rest)
      | (found, after) => (some (isNegative, found), after)
    else (none, first :: rest)

/-- The spellings of an infinity. -/
def infinityNames : List Text :=
  [.of "inf", .of "infinity"]

/-- The spelling of the undefined number. -/
def undefinedName : Text :=
  .of "nan"

/-- A number by one of its usual names: a numeral with digits before or after the point, or the
name of an infinity or of the undefined number, with a sign. -/
def ofName? (text : Text) : Option Binary64 :=
  let (isNegative, unsigned) := sign text
  let name := unsigned.map CodePoint.toLower
  if infinityNames.contains name then some (Binary64.infinity.withSign isNegative)
  else if name = undefinedName then some (Binary64.undefined.withSign isNegative)
  else
    let (whole, afterWhole) := digits unsigned
    let (part, afterFraction) := fraction 0 afterWhole
    let (power, rest) := exponent afterFraction
    if rest = [] ∧ (whole ≠ [] ∨ part.getD [] ≠ []) then
      some (Numeral.toBinary64 isNegative ⟨whole, part, power⟩)
    else none

/-- A text with the digits of all scripts replaced by those of this one. -/
def plainDigits (text : Text) : Text :=
  text.map fun point => match Text.digitValue? point with
    | some value => .char (Char.ofNat ('0'.toNat + value))
    | none => point

/-- A text without the underscores between its digits. There must be a digit on either side of each,
or there is no such text. -/
def joinDigits? (afterDigit : Bool) : Text → Option Text
  | [] => some []
  | .char '_' :: rest =>
    if afterDigit && rest.head?.any CodePoint.isDigit then joinDigits? false rest else none
  | point :: rest => (joinDigits? point.isDigit rest).map (point :: ·)

/-- White space that may stand around a number: all of it but the information separators. -/
def isMargin (point : CodePoint) : Bool :=
  Text.isSpace point && !(28 ≤ point.toNat && point.toNat ≤ 31)

/-- A text without the white space at its ends. -/
def withoutMargins (text : Text) : Text :=
  ((text.dropWhile isMargin).reverse.dropWhile isMargin).reverse

/-- A number as people write it: by one of its names, with digits of any script, with underscores
between digits, and with white space around it. -/
def number? (text : Text) : Option Binary64 :=
  (joinDigits? false (plainDigits (withoutMargins text))).bind ofName?

end Stencil.Decimal
