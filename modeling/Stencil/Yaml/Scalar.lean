import Stencil.Decimal.Numeral
import Stencil.Json.Reader
import Stencil.Value.Datum
import Stencil.Yaml.Place

/-!
# Plain scalars

A scalar without quotes is whatever it looks like: nothing, a truth value, a number, a date, or
else a text. Numbers may have underscores between their digits. An integer may be binary, octal or
hexadecimal; a floating-point number must have a point. Both may be given in parts to the base of
sixty, as times are.
-/

namespace Stencil.Yaml

/-- The words for nothing. -/
def nullWords : List Text :=
  ["", "~", "null", "Null", "NULL"].map Text.of

/-- The words for true. -/
def trueWords : List Text :=
  ["yes", "Yes", "YES", "true", "True", "TRUE", "on", "On", "ON"].map Text.of

/-- The words for false. -/
def falseWords : List Text :=
  ["no", "No", "NO", "false", "False", "FALSE", "off", "Off", "OFF"].map Text.of

/-- The words that are reserved: the key of the entries of other mappings, and the key of a default
value. -/
def mergeWord : Text := .of "<<"

@[inherit_doc mergeWord]
def defaultWord : Text := .of "="

/-! ## Integers -/

/-- Whether a text consists of digits of a base and underscores, and is not empty. -/
def isDigits (base : Nat) (text : Text) : Bool :=
  !text.isEmpty && text.all fun point =>
    point == .char '_' || ((Json.hexValue? point).any (decide <| · < base))

/-- Digits without the underscores among them. -/
def withoutUnderscores (text : Text) : Text :=
  text.filter (· ≠ .char '_')

/-- The value of digits of a base, underscores left out. There must be one, and of decimal ones
there must not be too many. -/
def valueOfDigits (base : Nat) (text : Text) : Except Error Nat :=
  let digits := withoutUnderscores text
  if digits = [] ∨ (base = 10 ∧ Decimal.digitLimit < digits.length) then .error .unreadableNumeral
  else .ok (digits.foldl (fun value digit => value * base + (Json.hexValue? digit).getD 0) 0)

/-- A part of a number to the base of sixty: one or two digits below sixty. -/
def isSixtieth (text : Text) : Bool :=
  match text with
  | [only] => only.isDigit
  | [.char tens, ones] => '0' ≤ tens && tens ≤ '5' && ones.isDigit
  | _ => false

/-- The magnitude of an integer, if a text looks like one. A leading zero is the sign of the octal
base. -/
def magnitude? (text : Text) : Option (Except Error Nat) :=
  let based (base : Nat) (digits whole : Text) : Option (Except Error Nat) :=
    if isDigits base digits then some (valueOfDigits base whole) else none
  match text with
  | [] => none
  | [.char '0'] => some (.ok 0)
  | .char '0' :: .char 'b' :: digits => based 2 digits digits
  | .char '0' :: .char 'x' :: digits => based 16 digits digits
  | .char '0' :: digits => based 8 digits text
  | first :: _ =>
    if !first.isDigit then none
    else if isDigits 10 text then some (valueOfDigits 10 text)
    else match Text.splitAt (.char ':') text with
      | whole :: parts =>
        if isDigits 10 whole && !parts.isEmpty && parts.all isSixtieth then
          some do
            let values ← (whole :: parts).mapM (valueOfDigits 10)
            return values.foldl (fun value part => value * 60 + part) 0
        else none
      | [] => none

/-- An integer, if a text looks like one. -/
def int? (text : Text) : Option (Except Error Int) :=
  let (isNegative, unsigned) := Decimal.sign text
  (magnitude? unsigned).map fun magnitude => magnitude.map fun (magnitude : Nat) =>
    if isNegative then -(magnitude : Int) else magnitude

/-! ## Floating-point numbers -/

/-- The exponent of a floating-point number, which must have a sign. -/
def exponent? : Text → Option (Option (Bool × Text))
  | [] => some none
  | mark :: sign :: digits =>
    if (mark = .char 'e' ∨ mark = .char 'E') ∧ (sign = .char '-' ∨ sign = .char '+') ∧
        digits ≠ [] ∧ digits.all CodePoint.isDigit then
      some (some (decide (sign = .char '-'), digits))
    else none
  | _ => none

/-- Leading digits and underscores, and the rest. -/
def spacedDigits (text : Text) : Text × Text :=
  text.span fun point => point.isDigit || point == .char '_'

/-- The magnitude of a floating-point number, if a text looks like one. There must be digits before
its point, unless it has no sign. -/
def decimal? (isSigned : Bool) (text : Text) : Option Binary64 :=
  let (whole, afterWhole) := spacedDigits text
  match afterWhole with
  | .char '.' :: afterPoint =>
    let (fraction, afterFraction) := spacedDigits afterPoint
    let wellFormed := match whole.head? with
      | some first => first.isDigit
      | none => !isSigned && fraction.head?.any CodePoint.isDigit
    match wellFormed, exponent? afterFraction with
    | true, some exponent => some <| Decimal.Numeral.toBinary64 false
        ⟨withoutUnderscores whole, some (withoutUnderscores fraction), exponent⟩
    | _, _ => none
  | _ => none

/-- The magnitude of a floating-point number in parts to the base of sixty, if a text looks like
one. The last part has a point behind its digits. -/
def sixtieths? (text : Text) : Option Binary64 :=
  match (Text.splitAt (.char ':') text).reverse with
  | last :: before :: earlier =>
    let (digits, afterDigits) := last.span CodePoint.isDigit
    let fraction := afterDigits.tail
    let parts := (before :: earlier).reverse
    if isSixtieth digits && afterDigits.head? == some (.char '.') &&
        fraction.all (fun point => point.isDigit || point == .char '_') &&
        parts.head?.any (fun whole => isDigits 10 whole && whole.head?.any CodePoint.isDigit) &&
        parts.tail.all isSixtieth then
      let value (digits fraction : Text) : Binary64 :=
        Decimal.Numeral.toBinary64 false
          ⟨withoutUnderscores digits, some (withoutUnderscores fraction), none⟩
      some (Binary64.ofSixtieths (value digits fraction :: (before :: earlier).map (value · [])))
    else none
  | _ => none

/-- A floating-point number, if a text looks like one. -/
def float? (text : Text) : Option Binary64 :=
  let (isNegative, unsigned) := Decimal.sign text
  let isSigned := unsigned.length < text.length
  if [".inf", ".Inf", ".INF"].any (unsigned = Text.of ·) then
    some (Binary64.infinity.withSign isNegative)
  else if [".nan", ".NaN", ".NAN"].any (text = Text.of ·) then some .undefined
  else ((decimal? isSigned unsigned).or (sixtieths? unsigned)).map (·.withSign isNegative)

/-! ## Dates -/

/-- The parts of a date, if a text looks like one. -/
def dateParts? (text : Text) : Option (Nat × Nat × Nat) :=
  match text with
  | [y₁, y₂, y₃, y₄, .char '-', m₁, m₂, .char '-', d₁, d₂] =>
    let year := [y₁, y₂, y₃, y₄]
    let month := [m₁, m₂]
    let day := [d₁, d₂]
    if (year ++ month ++ day).all CodePoint.isDigit then
      some (Decimal.valueOf 0 year, Decimal.valueOf 0 month, Decimal.valueOf 0 day)
    else none
  | _ => none

/-! ## All of them -/

/-- What a plain scalar stands for. The reserved words stand for nothing by themselves. -/
def resolve (text : Text) : Except Error Datum :=
  if nullWords.contains text then .ok .null
  else if trueWords.contains text then .ok (.bool true)
  else if falseWords.contains text then .ok (.bool false)
  else if text = mergeWord ∨ text = defaultWord then .error .malformed
  else match float? text, int? text, dateParts? text with
    | some number, _, _ => .ok (.float number)
    | none, some value, _ => value.map .int
    | none, none, some (year, month, day) => match Date.of? year month day with
      | some date => .ok (.date date)
      | none => .error .noSuchDate
    | none, none, none => .ok (.text text)

/-- No plain scalar stands for a mapping. -/
theorem resolve_ne_mapping (text : Text) (entries : Record) :
    resolve text ≠ .ok (.mapping entries) := by
  intro found
  rw [resolve] at found
  split at found
  · cases found
  split at found
  · cases found
  split at found
  · cases found
  split at found
  · cases found
  generalize float? text = number, int? text = integer, dateParts? text = parts at found
  match number, integer, parts with
  | some number, _, _ => cases found
  | none, some value, _ => cases value <;> cases found
  | none, none, some (year, month, day) =>
    dsimp only at found
    cases date : Date.of? year month day <;> rw [date] at found <;> cases found
  | none, none, none => cases found

/-- The key that a datum can serve as; collections cannot. -/
def keyOf : Datum → Except Error Key
  | .null => .ok .null
  | .bool value => .ok (.bool value)
  | .int value => .ok (.int value)
  | .float number => .ok (.float number)
  | .text content => .ok (.text content)
  | .date day => .ok (.date day)
  | .list _ | .mapping _ => .error .malformed

/-- The key that a plain scalar stands for. The word for the key of a default value is a text. -/
def resolveKey (text : Text) : Except Error Key :=
  if text = defaultWord then .ok (.text text)
  else do keyOf (← resolve text)

end Stencil.Yaml
