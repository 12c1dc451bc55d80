import Stencil.Text.Basic

/-!
# Malformed JSON

The report of malformed JSON says what was expected or found, and where: by line and column, both
counted from 1, and by the offset from the start.
-/

namespace Stencil.Json

/-- What can be wrong with JSON. -/
inductive Cause where
  /-- The document begins with a byte order mark. -/
  | byteOrderMark
  | noValue
  | noName
  | noColon
  | noComma
  | extraData
  | unterminatedString
  | controlCharacter
  | unknownEscape
  | malformedCode
  /-- An integer has more digits than are read. -/
  | numeralTooLong
  deriving DecidableEq, Repr

/-- The cause in words. -/
def Cause.text : Cause → Text
  | .byteOrderMark => Text.of "Unexpected UTF-8 BOM (decode using utf-8-sig)"
  | .noValue => Text.of "Expecting value"
  | .noName => Text.of "Expecting property name enclosed in double quotes"
  | .noColon => Text.of "Expecting ':' delimiter"
  | .noComma => Text.of "Expecting ',' delimiter"
  | .extraData => Text.of "Extra data"
  | .unterminatedString => Text.of "Unterminated string starting at"
  | .controlCharacter => Text.of "Invalid control character at"
  | .unknownEscape => Text.of "Invalid \\escape"
  | .malformedCode => Text.of "Invalid \\uXXXX escape"
  | .numeralTooLong => Text.of "Too many digits"

/-- Why a document is not JSON, and at which offset. -/
structure Error where
  cause : Cause
  /-- The text before the place of the error. -/
  before : Text
  deriving DecidableEq, Repr

namespace Error

/-- The line of the error. -/
def line (error : Error) : Nat :=
  Text.lineBreaks error.before + 1

/-- The column of the error. -/
def column (error : Error) : Nat :=
  (error.before.reverse.takeWhile (· ≠ .char '\n')).length + 1

/-- The report: the cause in words, and the place. -/
def message (error : Error) : Text :=
  error.cause.text ++ Text.of ": line " ++ Text.ofNat error.line ++ Text.of " column " ++
    Text.ofNat error.column ++ Text.of " (char " ++ Text.ofNat error.before.length ++ Text.of ")"

end Error

end Stencil.Json
