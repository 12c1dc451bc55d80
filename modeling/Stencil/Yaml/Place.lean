import Stencil.Text.Basic

/-!
# Places in a YAML document

The structure of a document is given by lines and columns, so a place is known by both, and by its
offset, together with the text from there on. Reading moves a place on, one code point at a time
(`Place.step`).

Three code points end a line once every other form of line break has been turned into a line feed.
A byte order mark takes up no column.
-/

namespace Stencil.Yaml

/-- Why a document is not understood. -/
inductive Error where
  | malformed
  /-- A scalar looks like a date that the calendar does not have. -/
  | noSuchDate
  /-- A scalar looks like an integer that has too many digits, or none. -/
  | unreadableNumeral
  /-- A code stands for no code point, since it is too large. -/
  | noSuchCode (code : Nat)
  deriving DecidableEq, Repr

/-- Whether a code point ends a line. -/
def isBreak (point : CodePoint) : Bool :=
  point == .char '\n' || point == .char '\u2028' || point == .char '\u2029'

/-- Whether a code point is a space or a tab. -/
def isBlank (point : CodePoint) : Bool :=
  point == .char ' ' || point == .char '\t'

/-- Whether a text ends or goes on with white space. -/
def atGap : Text → Bool
  | [] => true
  | point :: _ => isBlank point || isBreak point

/-- A document with every form of line break turned into a line feed, but for the two separators
that only end lines. -/
def unifyBreaks : Text → Text
  | [] => []
  | .char '\r' :: .char '\n' :: rest => .char '\n' :: unifyBreaks rest
  | .char '\r' :: rest => .char '\n' :: unifyBreaks rest
  | .char '\x85' :: rest => .char '\n' :: unifyBreaks rest
  | point :: rest => point :: unifyBreaks rest

/-- Whether a document may hold a code point. -/
def isAllowed (point : CodePoint) : Bool :=
  let code := point.toNat
  code == 9 || code == 10 || code == 13 || (0x20 ≤ code && code ≤ 0x7E) || code == 0x85 ||
    (0xA0 ≤ code && code ≤ 0xD7FF) || (0xE000 ≤ code && code ≤ 0xFFFD) || 0x10000 ≤ code

/-- A place in a document. -/
structure Place where
  offset : Nat
  line : Nat
  column : Nat
  rest : Text
  deriving DecidableEq, Repr

namespace Place

/-- The start of a text. -/
def start (text : Text) : Place :=
  ⟨0, 0, 0, text⟩

/-- The place behind a code point, given what follows it. -/
def step (place : Place) (point : CodePoint) (rest : Text) : Place :=
  if isBreak point then ⟨place.offset + 1, place.line + 1, 0, rest⟩
  else if point = .char '\uFEFF' then ⟨place.offset + 1, place.line, place.column, rest⟩
  else ⟨place.offset + 1, place.line, place.column + 1, rest⟩

/-- The next place; the end of a document has none but itself. -/
def next (place : Place) : Place :=
  match place.rest with
  | [] => place
  | point :: rest => place.step point rest

/-- The place a number of code points further. -/
def skip : Nat → Place → Place
  | 0, place => place
  | count + 1, place => skip count place.next

/-- The code points of a class at a place, and the place behind them. -/
def span (belongs : CodePoint → Bool) (place : Place) : Text × Place :=
  let (taken, rest) := place.rest.span belongs
  (taken, { taken.foldl (fun behind point => behind.step point []) place with rest := rest })

/-- Whether a code point stands at a place. -/
def at? (place : Place) (point : CodePoint) : Bool :=
  place.rest.head? == some point

/-- Whether nothing is left of the document. -/
def atEnd (place : Place) : Bool :=
  place.rest.isEmpty

/-- Whether three signs with white space behind them stand at a place. -/
def atMark (place : Place) (sign : CodePoint) : Bool :=
  (Text.after? [sign, sign, sign] place.rest).any atGap

/-- Whether the mark of a document's start or end stands at a place. -/
def atDocumentMark (place : Place) : Bool :=
  place.atMark (.char '-') || place.atMark (.char '.')

/-- The line break at a place and the place behind it. -/
def lineBreak? (place : Place) : Option (CodePoint × Place) :=
  match place.rest with
  | [] => none
  | point :: rest => if isBreak point then some (point, place.step point rest) else none

/-- The next place that is neither a space nor a line break nor within a comment, and whether a line
break was crossed on the way, given a bound on the lines. -/
def toContent : Nat → Bool → Place → Bool × Place
  | 0, crossed, place => (crossed, place)
  | bound + 1, crossed, place =>
    let (_, content) := place.span (· == .char ' ')
    let (_, behind) := if content.at? (.char '#') then content.span (!isBreak ·) else ([], content)
    match behind.lineBreak? with
    | some (_, next) => toContent bound true next
    | none => (crossed, behind)

end Place

/-- What line breaks inside a scalar stand for, given the first and the further ones: a line feed
alone stands for a space, and before others it stands for nothing. -/
def folded (first : CodePoint) (further : Text) : Text :=
  if first ≠ .char '\n' then first :: further
  else if further = [] then .of " "
  else further

end Stencil.Yaml
