import Stencil.Decimal.Shortest
import Stencil.Text.Quoted
import Stencil.Value.Datum

/-!
# Writing JSON

Data are written with every item and every member on a line of its own, indented by two characters
a level. Characters stand for themselves as far as JSON allows. Names have to be texts: a number, a
truth value or nothing becomes the text that it is written as, and other keys are refused. A date
is written as its text.
-/

namespace Stencil.Json

/-- A code point of a string. -/
def encode (point : CodePoint) : Text :=
  if point = .char '"' ∨ point = .char '\\' then [.char '\\', point]
  else if point = .char '\n' then .of "\\n"
  else if point = .char '\r' then .of "\\r"
  else if point = .char '\t' then .of "\\t"
  else if point = .char '\x08' then .of "\\b"
  else if point = .char '\x0c' then .of "\\f"
  else if point.toNat < 0x20 then .of "\\u" ++ Text.Quoted.hex 4 point.toNat
  else [point]

/-- A string between quotes. -/
def writeString (content : Text) : Text :=
  .char '"' :: content.flatMap encode ++ [.char '"']

/-- A floating-point number; those that are not finite are written as names. -/
def writeFloat (number : Binary64) : Text :=
  if number.isNaN then Text.of "NaN"
  else if number.isFinite then Decimal.write number
  else if number.negative then Text.of "-Infinity"
  else Text.of "Infinity"

/-- A truth value. -/
def writeBool (value : Bool) : Text :=
  if value then Text.of "true" else Text.of "false"

/-- The name that a key becomes, if it can become one. -/
def nameOf? : Key → Option Text
  | .text content => some content
  | .int value => some (Text.ofInt value)
  | .bool value => some (writeBool value)
  | .null => some (Text.of "null")
  | .float number => some (writeFloat number)
  | .date _ => none

/-- The start of a line at a level. -/
def newLine (level : Nat) : Text :=
  .char '\n' :: List.replicate (2 * level) (.char ' ')

/-- Parts of a container, each on a line of its own. -/
def container (left right : Char) (level : Nat) : List Text → Text
  | [] => [.char left, .char right]
  | parts =>
    .char left :: newLine (level + 1) ++ Text.joinWith (.char ',' :: newLine (level + 1)) parts ++
      newLine level ++ [.char right]

mutual

/-- Data at a level, if all names can be written. -/
def write? (level : Nat) : Datum → Option Text
  | .null => some (Text.of "null")
  | .bool value => some (writeBool value)
  | .int value => some (Text.ofInt value)
  | .float number => some (writeFloat number)
  | .text content => some (writeString content)
  | .date day => some (writeString day.text)
  | .list items => (writeItems? (level + 1) items).map (container '[' ']' level)
  | .mapping entries => (writeMembers? (level + 1) entries).map (container '{' '}' level)

/-- The items of a list. -/
def writeItems? (level : Nat) : List Datum → Option (List Text)
  | [] => some []
  | item :: items => do return (← write? level item) :: (← writeItems? level items)

/-- The members of a mapping. -/
def writeMembers? (level : Nat) : List (Key × Datum) → Option (List Text)
  | [] => some []
  | (key, item) :: entries => do
    let member := writeString (← nameOf? key) ++ .of ": " ++ (← write? level item)
    return member :: (← writeMembers? level entries)

end

end Stencil.Json
