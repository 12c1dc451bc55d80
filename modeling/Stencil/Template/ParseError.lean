import Stencil.Text.Basic

/-!
# Malformed templates

A template is malformed at one tag. The report names what is wrong with the tag and the line that
the tag is on.
-/

namespace Stencil

/-- What can be wrong with a tag. -/
inductive ParseError.Cause where
  /-- A closing tag outside of every section. -/
  | unopened (name : Text)
  /-- A closing tag that names another section than the innermost open one. -/
  | crossed (name expected : Text)
  /-- An opening tag whose section is still open at the end of the template. -/
  | unclosed (name : Text)
  /-- A set-delimiters tag that does not hold exactly two delimiters. -/
  | notTwoDelimiters
  /-- A marker that announces nothing. -/
  | unknownMarker (marker : CodePoint)
  deriving DecidableEq, Repr

/-- Why a template cannot be parsed, and on which line, counted from 1. -/
structure ParseError where
  cause : ParseError.Cause
  line : Nat
  deriving DecidableEq, Repr

namespace ParseError

/-- The cause in words. -/
def Cause.text : Cause → Text
  | .unopened name => Text.of "End Section tag '" ++ name ++ Text.of "' found, but not in a section"
  | .crossed name expected =>
    Text.of "End Section tag closes '" ++ name ++ Text.of "'; expected '" ++ expected ++ Text.of "'"
  | .unclosed name => Text.of "Section '" ++ name ++ Text.of "' is never closed"
  | .notTwoDelimiters => Text.of "Set Delimiters tags must have exactly two values"
  | .unknownMarker marker => Text.of "Unknown tag type -- " ++ [marker]

/-- The report: the cause in words, then the line. -/
def message (error : ParseError) : Text :=
  error.cause.text ++ Text.of " (line " ++ Text.ofNat error.line ++ Text.of ")"

end ParseError

end Stencil
