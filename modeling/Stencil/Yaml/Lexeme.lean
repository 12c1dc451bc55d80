import Stencil.Json.Reader
import Stencil.Yaml.Place

/-!
# Scalars as they are written

A scalar is written without quotes, between quotes, or as a block of lines. One without quotes or
between quotes can go on over several lines, which are joined by spaces; a block keeps its lines.

Every reader takes a bound on how often it goes on.
-/

namespace Stencil.Yaml

/-! ## Between quotes -/

/-- What a letter after a backslash stands for. -/
def escapes : List (CodePoint × Char) :=
  [('0', '\x00'), ('a', '\x07'), ('b', '\x08'), ('t', '\t'), ('\t', '\t'), ('n', '\n'),
    ('v', '\x0b'), ('f', '\x0c'), ('r', '\r'), ('e', '\x1b'), (' ', ' '), ('"', '"'),
    ('\\', '\\'), ('/', '/'), ('N', '\x85'), ('_', '\xA0'), ('L', '\u2028'), ('P', '\u2029')].map
    fun (letter, meant) => (.char letter, meant)

/-- The number of hexadecimal digits after a letter that announces a code. -/
def codeWidth? (letter : CodePoint) : Option Nat :=
  if letter = .char 'x' then some 2
  else if letter = .char 'u' then some 4
  else if letter = .char 'U' then some 8
  else none

/-- The code point with a code of a number of hexadecimal digits. -/
def readCode (width : Nat) (text : Text) : Except Error CodePoint :=
  let digits := text.take width
  if digits.length < width then .error .malformed
  else match Json.hexNumber? digits with
    | none => .error .malformed
    | some code => match CodePoint.ofNat? code with
      | some point => .ok point
      | none => .error (.noSuchCode code)

/-- The line breaks at a place inside quotes, with the blanks around them, and the place behind
them. A line there must not look like the mark of a document. -/
def quotedBreaks : Nat → Place → Except Error (Text × Place)
  | 0, _ => .error .malformed
  | bound + 1, place =>
    if place.atDocumentMark then .error .malformed
    else
      let (_, content) := place.span isBlank
      match content.lineBreak? with
      | some (point, next) => do
        let (breaks, behind) ← quotedBreaks bound next
        return (point :: breaks, behind)
      | none => .ok ([], content)

/-- White space at a place inside quotes: what it stands for, and the place behind it. -/
def quotedGap (bound : Nat) (place : Place) : Except Error (Text × Place) :=
  let (blanks, content) := place.span isBlank
  match content.lineBreak? with
  | some (point, next) => do
    let (breaks, behind) ← quotedBreaks bound next
    return (folded point breaks, behind)
  | none => if content.atEnd then .error .malformed else .ok (blanks, content)

/-- What is escaped by a backslash, given the place behind the backslash. -/
def escapeSequence (bound : Nat) (place : Place) : Except Error (Text × Place) :=
  match place.rest with
  | [] => .error .malformed
  | letter :: rest =>
    match escapes.lookup letter, codeWidth? letter with
    | some meant, _ => .ok ([.char meant], place.next)
    | none, some width => do
      return ([← readCode width rest], place.skip (width + 1))
    | none, none => if isBreak letter then quotedBreaks bound place.next else .error .malformed

/-- A scalar up to its closing quote: its content and the place behind it. Between double quotes a
backslash escapes, between single ones a quote is written twice. -/
def quoted (isDouble : Bool) : Nat → Place → Except Error (Text × Place)
  | 0, _ => .error .malformed
  | bound + 1, place => do
    let quote : CodePoint := .char (if isDouble then '"' else '\'')
    let continued (content : Text) (behind : Place) : Except Error (Text × Place) := do
      let (more, last) ← quoted isDouble bound behind
      return (content ++ more, last)
    match place.rest with
    | [] => throw .malformed
    | point :: rest =>
      if isBlank point || isBreak point then
        let (content, behind) ← quotedGap bound place
        continued content behind
      else if point = quote then
        if !isDouble && rest.head? == some quote then continued [quote] (place.skip 2)
        else return ([], place.next)
      else if isDouble && point = .char '\\' then
        let (content, behind) ← escapeSequence bound place.next
        continued content behind
      else continued [point] place.next

/-! ## Without quotes -/

/-- The signs that structure a collection between brackets. -/
def flowSigns : Text :=
  .of ",[]\x7b\x7d"

/-- Whether a scalar without quotes cannot go on here. Between brackets the signs that structure the
collection end it. -/
def endsPlain (inFlow : Bool) : Text → Bool
  | [] => true
  | point :: rest =>
    let afterColon := atGap rest || (inFlow && rest.head?.any flowSigns.contains)
    atGap (point :: rest) || (point == .char ':' && afterColon) ||
      (inFlow && (point == .char '?' || flowSigns.contains point))

/-- The part of a scalar without quotes up to the next white space, and the place behind it. -/
def plainWord (inFlow : Bool) : Nat → Place → Text × Place
  | 0, place => ([], place)
  | bound + 1, place =>
    match place.rest with
    | [] => ([], place)
    | point :: rest =>
      if endsPlain inFlow (point :: rest) then ([], place)
      else
        let (word, behind) := plainWord inFlow bound place.next
        (point :: word, behind)

/-- The line breaks and spaces at a place: the breaks and the place behind them, or just the place
if a line there looks like the mark of a document. -/
def plainBreaks : Nat → Place → Option Text × Place
  | 0, place => (none, place)
  | bound + 1, place =>
    if place.at? (.char ' ') then plainBreaks bound place.next
    else match place.lineBreak? with
      | none => (some [], place)
      | some (point, next) =>
        if next.atDocumentMark then (none, next)
        else
          let (breaks, behind) := plainBreaks bound next
          (breaks.map (point :: ·), behind)

/-- White space at a place behind a word. -/
structure Gap where
  /-- What it stands for inside a scalar; nothing if the scalar cannot go on behind it. -/
  meaning : Text
  behind : Place
  /-- Whether there is a line break in it. -/
  crossesLines : Bool

/-- The white space at a place behind a word of a scalar without quotes. -/
def plainGap (bound : Nat) (place : Place) : Gap :=
  let (spaces, content) := place.span (· == .char ' ')
  match content.lineBreak? with
  | none => ⟨spaces, content, false⟩
  | some (point, next) =>
    if next.atDocumentMark then ⟨[], next, true⟩
    else match plainBreaks bound next with
      | (some breaks, behind) => ⟨folded point breaks, behind, true⟩
      | (none, behind) => ⟨[], behind, true⟩

/-- A scalar without quotes: its content, the place behind it and behind the white space after it,
and whether that has a line break in it. In block form it only goes on from a column on. -/
def plain (inFlow : Bool) (least : Int) : Nat → Place → Text × Place × Bool
  | 0, place => ([], place, false)
  | bound + 1, place =>
    let (word, afterWord) := plainWord inFlow bound place
    let gap := plainGap bound afterWord
    if gap.meaning = [] ∨ gap.behind.at? (.char '#') ∨ (!inFlow && gap.behind.column < least) ∨
        endsPlain inFlow gap.behind.rest then
      (word, gap.behind, gap.crossesLines)
    else
      let (more, last, crosses) := plain inFlow least bound gap.behind
      (word ++ gap.meaning ++ more, last, crosses)

/-- Signs that introduce something else than a scalar without quotes. -/
def indicators : Text :=
  .of "#&*!|>'\"%@\x60" ++ flowSigns

/-- Whether a scalar without quotes can begin here. -/
def beginsPlain (inFlow : Bool) : Text → Bool
  | [] => false
  | point :: rest =>
    if point = .char '-' then !atGap rest
    else if point = .char '?' ∨ point = .char ':' then !atGap rest && !inFlow
    else !atGap (point :: rest) && !indicators.contains point

/-! ## Blocks of lines -/

/-- What becomes of the line breaks at the end of a block of lines. -/
inductive Chomping where
  | strip
  | clip
  | keep
  deriving DecidableEq, Repr

/-- The sign for what becomes of the end of a block. -/
def chomping? (point : CodePoint) : Option Chomping :=
  if point = .char '-' then some .strip
  else if point = .char '+' then some .keep
  else none

/-- The digit that gives the indentation of a block. -/
def increment? : CodePoint → Option Nat
  | .char digit => if digit.isDigit then some (digit.toNat - '0'.toNat) else none
  | .surrogate _ => none

/-- The signs behind the mark of a block of lines: what becomes of its end, the indentation if it is
given, and the place behind them. -/
def blockSigns (place : Place) : Chomping × Option Nat × Place :=
  match place.rest with
  | [] => (.clip, none, place)
  | first :: rest =>
    match chomping? first, increment? first with
    | some chomping, _ =>
      match rest.head?.bind increment? with
      | some increment => (chomping, some increment, place.skip 2)
      | none => (chomping, none, place.next)
    | none, some increment =>
      match rest.head?.bind chomping? with
      | some chomping => (chomping, some increment, place.skip 2)
      | none => (.clip, some increment, place.next)
    | none, none => (.clip, none, place)

/-- The place at the start of the line after the signs of a block. Nothing but a comment may stand
behind the signs, and a space has to be in front of it. -/
def afterSigns (place : Place) : Except Error Place :=
  if !atGap place.rest || place.at? (.char '\t') then .error .malformed
  else
    let (_, content) := place.span (· == .char ' ')
    let (_, behind) := if content.at? (.char '#') then content.span (!isBreak ·) else ([], content)
    match behind.lineBreak? with
    | some (_, next) => .ok next
    | none => if behind.atEnd then .ok behind else .error .malformed

/-- The line breaks and spaces before the first line of a block: the breaks, the deepest column that
the spaces reach, and the place behind them. -/
def leadingBreaks : Nat → Nat → Place → Text × Nat × Place
  | 0, deepest, place => ([], deepest, place)
  | bound + 1, deepest, place =>
    if place.at? (.char ' ') then leadingBreaks bound (max deepest place.next.column) place.next
    else match place.lineBreak? with
      | some (point, next) =>
        let (breaks, found, behind) := leadingBreaks bound deepest next
        (point :: breaks, found, behind)
      | none => ([], deepest, place)

/-- The line breaks at a place with spaces up to a column around them, and the place behind them. -/
def indentedBreaks (indent : Nat) : Nat → Place → Text × Place
  | 0, place => ([], place)
  | bound + 1, place =>
    if place.column < indent && place.at? (.char ' ') then indentedBreaks indent bound place.next
    else match place.lineBreak? with
      | some (point, next) =>
        let (breaks, behind) := indentedBreaks indent bound next
        (point :: breaks, behind)
      | none => ([], place)

/-- Whether a line of a block stands at a place. -/
def atBlockLine (indent : Nat) (place : Place) : Bool :=
  place.column == indent && !place.atEnd

/-- What stands between two lines of a block, given the break at the end of the first line, the
further breaks, and whether both lines are running text. -/
def betweenLines (isFolded running : Bool) (lineBreak further : Text) : Text :=
  if isFolded && running && lineBreak == .of "\n" then
    (if further = [] then .of " " else further)
  else lineBreak ++ further

/-- The lines of a block from one on: their content and the place behind them. -/
def blockLines (isFolded : Bool) (chomping : Chomping) (indent : Nat) : Nat → Place → Text × Place
  | 0, place => ([], place)
  | bound + 1, place =>
    let (line, lineEnd) := place.span (!isBreak ·)
    let (lineBreak, next) : Text × Place := match lineEnd.lineBreak? with
      | some (point, next) => ([point], next)
      | none => ([], lineEnd)
    let (further, behind) := indentedBreaks indent bound next
    if atBlockLine indent behind then
      let running := !place.rest.head?.any isBlank && !behind.rest.head?.any isBlank
      let (more, last) := blockLines isFolded chomping indent bound behind
      (line ++ betweenLines isFolded running lineBreak further ++ more, last)
    else
      let ending := match chomping with
        | .strip => []
        | .clip => lineBreak
        | .keep => lineBreak ++ further
      (line ++ ending, behind)

/-- A block of lines behind its mark, inside a collection at a column: its content and the place
behind it. -/
def block (isFolded : Bool) (outer : Int) (bound : Nat) (place : Place) :
    Except Error (Text × Place) := do
  let (chomping, increment, signsEnd) := blockSigns place
  if increment = some 0 then throw .malformed
  let start ← afterSigns signsEnd
  let least := max 1 (outer + 1).toNat
  let (indent, leading, first) : Nat × Text × Place := match increment with
    | some increment =>
      let indent := least + increment - 1
      (indent, indentedBreaks indent bound start)
    | none =>
      let (leading, deepest, first) := leadingBreaks bound 0 start
      (max least deepest, leading, first)
  if atBlockLine indent first then
    let (content, behind) := blockLines isFolded chomping indent bound first
    return (leading ++ content, behind)
  else return (if chomping = .keep then leading else [], first)

end Stencil.Yaml
