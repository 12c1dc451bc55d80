import Stencil.Delimiters
import Stencil.Text.Scan
import Stencil.Text.Space
import Stencil.Text.Word

/-!
# Tags

A tag is the opening delimiter, white space, an interior and the closing delimiter. There are
three forms of interior, tried in this order:

* a body between equals signs, which changes the delimiters;
* a body between a pair of braces, which asks for a value as it is;
* an optional marker, which is anything that cannot be part of a word, and a body.

White space may stand on either side of the body and before the closing delimiter. It is kept out
of the body as far as that leaves a body at all. A body is never empty, and no occurrence of the
closing delimiter begins inside it.
-/

namespace Stencil

/-- The form of a tag's interior. -/
inductive Tag.Form where
  /-- The body stands between equals signs. -/
  | change
  /-- The body stands between braces. -/
  | braced
  /-- The body follows a marker, or nothing. -/
  | plain (marker : Option CodePoint)
  deriving DecidableEq, Repr

/-- A tag without its delimiters and the white space around its body. -/
structure Tag where
  form : Tag.Form
  body : Text
  deriving DecidableEq, Repr

namespace Tag

/-- The code point that announces what a tag asks for. A marker and a form that share it ask for the
same. -/
def Form.sign : Form → Option CodePoint
  | .change => some (.char '=')
  | .braced => some (.char '{')
  | .plain marker => marker

/-- Reads on after as much white space as possible. -/
def afterSpace {α : Type} (accept : Text → Option (Text.Reading α)) (text : Text) :
    Option (Text.Reading α) :=
  (Text.longestRun Text.isSpace accept text).map fun (space, reading) => reading.after space

/-- White space and the closing delimiter. -/
def closing? (closing : Text) : Text → Option (Text.Reading Unit) :=
  afterSpace fun text => (Text.after? closing text).map fun rest => ⟨(), closing, rest⟩

/-- A body without white space in front of it, and whatever the reader wants after it. -/
def bareBody? (closing : Text) (accept : Text → Option (Text.Reading Unit)) (text : Text) :
    Option (Text.Reading Text) :=
  (Text.shortestBody closing accept text).map fun (body, ending) =>
    (ending.map fun _ => body).after body

/-- White space, a body, and whatever the reader wants after it. If there is no body behind a white
space, one that begins with the white space consists of nothing else (`body?_eq_afterSpace`). -/
def body? (closing : Text) (accept : Text → Option (Text.Reading Unit)) :
    Text → Option (Text.Reading Text)
  | [] => none
  | first :: rest =>
    if Text.isSpace first then
      match body? closing accept rest with
      | some reading => some (reading.after [first])
      | none =>
        if (Text.after? closing (first :: rest)).isSome then none
        else (accept rest).map fun ending => (ending.map fun _ => [first]).after [first]
    else bareBody? closing accept (first :: rest)

/-- A character, white space and the closing delimiter, behind white space. -/
def ending? (closing : Text) (right : CodePoint) : Text → Option (Text.Reading Unit) :=
  afterSpace fun
    | [] => none
    | first :: rest => if first = right then (closing? closing rest).map (·.after [right]) else none

/-- A body between two given characters. -/
def between? (closing : Text) (left right : CodePoint) : Text → Option (Text.Reading Text)
  | [] => none
  | first :: rest =>
    if first = left then (body? closing (ending? closing right) rest).map (·.after [left])
    else none

/-- A body after a marker or after none; what can serve as marker is one if possible. -/
def marked? (closing : Text) (text : Text) : Option (Text.Reading Tag) :=
  let unmarked := (body? closing (closing? closing) text).map (·.map (Tag.mk (.plain none)))
  match text with
  | [] => unmarked
  | first :: rest =>
    if Text.isWord first then unmarked
    else match body? closing (closing? closing) rest with
      | some reading => some ((reading.map (Tag.mk (.plain (some first)))).after [first])
      | none => unmarked

/-- The interior of a tag up to and including the closing delimiter, in the first form that fits. -/
def interior? (closing : Text) (text : Text) : Option (Text.Reading Tag) :=
  match between? closing (.char '=') (.char '=') text with
  | some reading => some (reading.map (Tag.mk .change))
  | none => match between? closing (.char '{') (.char '}') text with
    | some reading => some (reading.map (Tag.mk .braced))
    | none => marked? closing text

/-- The tag that a text begins with. Without a closing delimiter there is none, and nothing has to
be tried (`read?_eq`). -/
def read? (delimiters : Delimiters) (text : Text) : Option (Text.Reading Tag) :=
  (Text.after? delimiters.opening text).bind fun inside =>
    if Text.holds delimiters.closing inside then
      (afterSpace (interior? delimiters.closing) inside).map (·.after delimiters.opening)
    else none

end Tag

end Stencil
