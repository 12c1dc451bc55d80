import Stencil.Tag.Occurrence
import Stencil.Tag.Request

/-!
# Places in a template

Parsing moves through a template from tag to tag. What it needs to know of the text behind it is
only its last code point, which decides whether a line begins here, and the number of its line
breaks, which gives the line to report.

A tag that organises the template and has a line to itself disappears together with its line: with
the blanks before it and the line break behind it. `Placement` is what becomes of the text around a
tag.
-/

namespace Stencil

/-- A place in a template. -/
structure Cursor where
  /-- The code point before this place; there is none at the start of the template. -/
  previous : Option CodePoint
  /-- The line breaks before this place. -/
  breaks : Nat
  /-- The template from this place on. -/
  rest : Text
  deriving DecidableEq, Repr

namespace Cursor

/-- The start of a template. -/
def start (template : Text) : Cursor :=
  ⟨none, 0, template⟩

/-- The place after a piece of text, given what follows the piece. -/
def past (cursor : Cursor) (piece rest : Text) : Cursor :=
  ⟨piece.getLast?.or cursor.previous, cursor.breaks + Text.lineBreaks piece, rest⟩

end Cursor

/-- The line break that a text begins with: one of two forms, or nothing at the end of the text. -/
def lineEnd? : Text → Option Text
  | [] => some []
  | .char '\n' :: _ => some [.char '\n']
  | .char '\r' :: .char '\n' :: _ => some [.char '\r', .char '\n']
  | _ => none

/-- A line break is taken from the front of the text. -/
theorem lineEnd?_isPrefix {text lineBreak : Text} (ends : lineEnd? text = some lineBreak) :
    lineBreak <+: text := by
  unfold lineEnd? at ends
  split at ends <;> simp at ends <;> subst ends <;> simp

/-- What becomes of the text around a tag. -/
structure Placement where
  /-- The text before the tag that is kept. -/
  kept : List Node
  /-- The same text as it is written. -/
  keptSource : Text
  /-- The blanks before the tag, if they disappear with it. -/
  indent : Text
  /-- What disappears: the indentation, the tag and the line break behind it. -/
  removed : Text
  /-- The place from which parsing goes on. -/
  next : Cursor

namespace Placement

/-- A line begins where the text before ends in a line feed, and at the start of the template. -/
def beginsLine (cursor : Cursor) (content : Text) : Bool :=
  match content.getLast?.or cursor.previous with
  | none => true
  | some last => last == .char '\n'

/-- The line break that disappears with a tag, if the tag disappears with its line. -/
def lineBreak? (cursor : Cursor) (occurrence : Tag.Occurrence) : Option Text :=
  if occurrence.tag.isInterpolation || !beginsLine cursor occurrence.content then none
  else lineEnd? occurrence.rest

/-- The placement of a tag found at a cursor. -/
def of (cursor : Cursor) (occurrence : Tag.Occurrence) : Placement :=
  match lineBreak? cursor occurrence with
  | some lineBreak =>
    { kept := Node.literals occurrence.content
      keptSource := occurrence.content
      indent := occurrence.blank
      removed := occurrence.blank ++ occurrence.source ++ lineBreak
      next := cursor.past
        (occurrence.content ++ occurrence.blank ++ occurrence.source ++ lineBreak)
        (occurrence.rest.drop lineBreak.length) }
  | none =>
    { kept := Node.literals occurrence.content ++ Node.literals occurrence.blank
      keptSource := occurrence.content ++ occurrence.blank
      indent := []
      removed := occurrence.source
      next := cursor.past (occurrence.content ++ occurrence.blank ++ occurrence.source)
        occurrence.rest }

/-- Parsing goes on behind the tag at the earliest. -/
theorem next_rest_length_le (cursor : Cursor) (occurrence : Tag.Occurrence) :
    (of cursor occurrence).next.rest.length ≤ occurrence.rest.length := by
  unfold of
  split <;> simp [Cursor.past]

/-- Parsing goes on nearer to the end of the template. -/
theorem next_shorter {delimiters : Delimiters} {cursor : Cursor} {occurrence : Tag.Occurrence}
    (found : Tag.find? delimiters cursor.rest = some occurrence) :
    (of cursor occurrence).next.rest.length < cursor.rest.length :=
  Nat.lt_of_le_of_lt (next_rest_length_le cursor occurrence) (Tag.find?_rest_shorter found)

end Placement

end Stencil
