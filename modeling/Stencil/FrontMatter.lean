import Stencil.Readers
import Stencil.Text.Space

/-!
# Front matter

A document can begin with a block of data between two marker lines. A marker is three hyphens at
the start of a line with nothing but spaces and tabs behind them. Only white space may stand before
the first marker line, and the second one may be ended by the end of the document instead of a line
break.

`FrontMatter.split?` finds the block without looking into it; `FrontMatter.read` says what data the
block holds, and `FrontMatter.readWith` says so for any readers of data.
-/

namespace Stencil

/-- Why data are refused. -/
inductive DataError where
  /-- What should be a mapping is of another type. -/
  | notMapping (source typeName : Text)
  | yaml (error : Yaml.Error)
  | json (error : Json.Error)
  deriving DecidableEq, Repr

namespace DataError

/-- Why data from a source cannot be used, if they are not a mapping. -/
def notMappingText (source typeName : Text) : Text :=
  source ++ Text.of " must be a mapping, got " ++ typeName

end DataError

/-- Data as the entries of a mapping; nothing is an empty one. -/
def Datum.asRecord (source : Text) : Datum → Except DataError Record
  | .null => .ok []
  | .mapping entries => .ok entries
  | other => .error (.notMapping source other.typeName)

namespace FrontMatter

/-- What follows a marker and the blanks behind it, if a text begins with one. -/
def afterMarker? (text : Text) : Option Text :=
  (Text.after? (.of "---") text).map (·.dropWhile Text.isBlank)

/-- What follows a line break, if a text begins with one. -/
def afterBreak? : Text → Option Text
  | .char '\n' :: rest => some rest
  | .char '\r' :: .char '\n' :: rest => some rest
  | _ => none

/-- What follows a marker line that a line break ends. -/
def opening? (text : Text) : Option Text :=
  (afterMarker? text).bind afterBreak?

/-- What follows a marker line that a line break or the end of the document ends. -/
def closing? (text : Text) : Option Text :=
  match afterMarker? text with
  | some [] => some []
  | some rest => afterBreak? rest
  | none => none

/-- The text up to the first marker line, and the text after that line. -/
def upToClosing? (atLineStart : Bool) (text : Text) : Option (Text × Text) :=
  match if atLineStart then closing? text else none with
  | some rest => some ([], rest)
  | none => match text with
    | [] => none
    | point :: rest =>
      (upToClosing? (point == .char '\n') rest).map fun (block, after) => (point :: block, after)

/-- The block of data of a document, and the document without it. -/
def split? (document : Text) : Option (Text × Text) :=
  let space := document.takeWhile Text.isSpace
  if space.getLast?.all (· == .char '\n') then
    (opening? (document.dropWhile Text.isSpace)).bind (upToClosing? true)
  else none

/-- The data of a document, if it has a block of them, and the template that remains. -/
def readWith (readers : Readers) (document : Text) : Except DataError (Option Record × Text) :=
  match split? document with
  | none => .ok (none, document)
  | some (block, template) => match readers.yaml block with
    | .error error => .error (.yaml error)
    | .ok data => (data.asRecord (Text.of "Front matter")).map fun record => (some record, template)

/-- The data and the template of a document, read as the format says. -/
def read (document : Text) : Except DataError (Option Record × Text) :=
  readWith .standard document

end FrontMatter

end Stencil
