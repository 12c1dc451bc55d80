import Stencil.Entries
import Stencil.Value.Key

/-!
# Data of documents

What a data file or the front matter of a document says. A datum is a tree without identity, as
opposed to the values that a template is rendered against, which can be shared and written to.
-/

namespace Stencil

/-- What a document can say. -/
inductive Datum where
  | null
  | bool (value : Bool)
  | int (value : Int)
  | float (number : Binary64)
  | text (text : Text)
  | date (date : Date)
  | list (items : List Datum)
  | mapping (entries : List (Key × Datum))
  deriving Inhabited

/-- The entries of a document that is a mapping. -/
abbrev Record := Entries Key Datum

namespace Datum

/-- The name of a datum's type in reports. -/
def typeName : Datum → Text
  | .null => Text.of "NoneType"
  | .bool _ => Text.of "bool"
  | .int _ => Text.of "int"
  | .float _ => Text.of "float"
  | .text _ => Text.of "str"
  | .date _ => Text.of "date"
  | .list _ => Text.of "list"
  | .mapping _ => Text.of "dict"

end Datum

end Stencil
