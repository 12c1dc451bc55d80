import Stencil.Text.Basic

/-!
# Character references of markup

Text that is put into markup must not be read as markup. The five characters that could be are
written as character references; every other character stands for itself. The rule works
character by character, so it commutes with concatenation (`escape_append`).
-/

namespace Stencil.Text.Entity

/-- The reference that stands for a character, or the code point itself. -/
def encode (point : CodePoint) : Text :=
  if point = .char '&' then .of "&amp;"
  else if point = .char '<' then .of "&lt;"
  else if point = .char '>' then .of "&gt;"
  else if point = .char '"' then .of "&quot;"
  else if point = .char '\'' then .of "&#x27;"
  else [point]

/-- Text made safe to stand in markup, also inside a quoted attribute. -/
def escape (text : Text) : Text :=
  text.flatMap encode

/-- Escaping a joined text is joining the escaped parts, because no reference spans characters. -/
@[simp] theorem escape_append (first second : Text) :
    escape (first ++ second) = escape first ++ escape second :=
  List.flatMap_append

end Stencil.Text.Entity
