import Stencil.Yaml.Lexeme

/-!
# The tokens of a YAML document

A document is a sequence of tokens. Some stand for signs that are written, and the scalars carry
their contents. Others mark where a collection in block form starts and ends, and where a key
starts; these show only in the columns, and a key only by the colon behind it.

So reading keeps, for each collection around it, the place where a key may have started. A slot in
front of that token is left open, and a colon fills it. A possible key is given up when its line
ends, or when it gets longer than `keyLimit`; one that has to be a key, since it stands where the
entries of a mapping do, is then an error.

Anchors, references, tags and directives are refused.
-/

namespace Stencil.Yaml

/-- A part of a document. -/
inductive Token where
  | documentStart
  | documentEnd
  | sequenceStart
  | mappingStart
  /-- The end of a collection in block form. -/
  | blockEnd
  | flowSequenceStart
  | flowSequenceEnd
  | flowMappingStart
  | flowMappingEnd
  /-- The sign of an item of a sequence in block form. -/
  | item
  /-- The sign between the parts of a collection in flow form. -/
  | comma
  | key
  | value
  | scalar (content : Text) (isPlain : Bool)
  deriving DecidableEq, Repr

/-- What comes before a token that may be a key. -/
inductive Slot where
  | token (token : Token)
  /-- Nothing, unless the next token turns out to be a key. -/
  | undecided
  /-- The next token is a key, perhaps the first one of a mapping in block form. -/
  | key (startsMapping : Bool)
  deriving DecidableEq, Repr

/-- The tokens that fill a slot. -/
def Slot.tokens : Slot → List Token
  | .token found => [found]
  | .undecided => []
  | .key false => [.key]
  | .key true => [.mappingStart, .key]

/-- A token that a colon may turn into a key. -/
structure PossibleKey where
  /-- The slot in front of the token. -/
  slot : Nat
  offset : Nat
  line : Nat
  column : Nat
  /-- Whether nothing but a key can stand there. -/
  required : Bool

/-- The most code points between the start of a key and the colon behind it. -/
def keyLimit : Nat := 1024

/-- How far the reading of a document has come. -/
structure Progress where
  place : Place
  slots : Array Slot
  /-- The column of the innermost collection in block form; outside of all it is negative. -/
  indent : Int
  /-- The columns of the collections around that one, from the inside. -/
  outer : List Int
  /-- Whether a key can start at the next token. -/
  keyAllowed : Bool
  /-- The possible keys of the collections in flow form, from the inside, and last the one in block
  form. -/
  keys : List (Option PossibleKey)

namespace Progress

/-- Nothing was read yet. -/
def start (text : Text) : Progress :=
  ⟨.start text, #[], -1, [], true, [none]⟩

/-- Whether a collection in flow form is open. -/
def inFlow (progress : Progress) : Bool :=
  1 < progress.keys.length

/-- One more token. -/
def push (progress : Progress) (token : Token) : Progress :=
  { progress with slots := progress.slots.push (.token token) }

/-- The possible key at the present level. -/
def possibleKey? (progress : Progress) : Option PossibleKey :=
  progress.keys.head?.join

/-- Another possible key at the present level, or none. -/
def setPossibleKey (progress : Progress) (key : Option PossibleKey) : Progress :=
  { progress with keys := key :: progress.keys.tail }

/-- Gives the possible key at the present level up, unless nothing but a key can stand there. -/
def giveUpKey (progress : Progress) : Except Error Progress :=
  if progress.possibleKey?.any (·.required) then .error .malformed
  else .ok (progress.setPossibleKey none)

/-- Gives all possible keys up that a colon would come too late for. -/
def giveUpLateKeys (progress : Progress) : Except Error Progress := do
  let keys ← progress.keys.mapM fun
    | none => pure none
    | some key =>
      if key.line = progress.place.line ∧ progress.place.offset - key.offset ≤ keyLimit then
        pure (some key)
      else if key.required then throw Error.malformed
      else pure none
  return { progress with keys := keys }

/-- Marks the next token as a possible key, if a key can start there. -/
def noteKey (progress : Progress) : Except Error Progress :=
  if progress.keyAllowed then do
    let progress ← progress.giveUpKey
    let place := progress.place
    let required := !progress.inFlow && progress.indent == place.column
    return { progress.setPossibleKey
        (some ⟨progress.slots.size, place.offset, place.line, place.column, required⟩) with
      slots := progress.slots.push .undecided }
  else .ok progress

/-- Leaves the collections in block form that are deeper than a column. -/
def leave (column : Int) : Int → List Int → Nat × Int × List Int
  | indent, [] => (0, indent, [])
  | indent, next :: outer =>
    if column < indent then
      let (count, found, rest) := leave column next outer
      (count + 1, found, rest)
    else (0, indent, next :: outer)

/-- Ends the collections in block form that are deeper than a column. In flow form columns say
nothing. -/
def leaveTo (progress : Progress) (column : Int) : Progress :=
  if progress.inFlow then progress
  else
    let (count, indent, outer) := leave column progress.indent progress.outer
    { progress with
      slots := progress.slots ++ Array.replicate count (.token .blockEnd)
      indent := indent
      outer := outer }

/-- Whether a column is deeper than the innermost collection in block form. -/
def isDeeper (progress : Progress) (column : Nat) : Bool :=
  progress.indent < column

/-- A collection in block form at a column. -/
def enter (progress : Progress) (column : Nat) : Progress :=
  { progress with indent := column, outer := progress.indent :: progress.outer }

/-- A collection in block form at the present column, if that is deeper than the innermost one. -/
def enterHere (progress : Progress) (token : Token) : Progress :=
  if progress.isDeeper progress.place.column then
    (progress.push token).enter progress.place.column
  else progress

/-- A token that takes up a number of code points. -/
def take (progress : Progress) (token : Token) (count : Nat) : Progress :=
  { progress.push token with place := progress.place.skip count }

/-- Reads the mark of a document's start or end. -/
def documentMark (progress : Progress) (token : Token) : Except Error Progress := do
  let progress ← (progress.leaveTo (-1)).giveUpKey
  return { progress.take token 3 with keyAllowed := false }

/-- Reads the sign that opens a collection in flow form. -/
def flowStart (progress : Progress) (token : Token) : Except Error Progress := do
  let progress ← progress.noteKey
  return { progress.take token 1 with keyAllowed := true, keys := none :: progress.keys }

/-- Reads the sign that closes a collection in flow form. -/
def flowEnd (progress : Progress) (token : Token) : Except Error Progress := do
  if !progress.inFlow then throw .malformed
  return { progress.take token 1 with keyAllowed := false, keys := progress.keys.tail }

/-- Reads the sign between the parts of a collection in flow form. -/
def comma (progress : Progress) : Except Error Progress := do
  let progress ← progress.giveUpKey
  return { progress.take .comma 1 with keyAllowed := true }

/-- Reads the sign of an item. In block form it may start a sequence. -/
def item (progress : Progress) : Except Error Progress := do
  if !progress.inFlow && !progress.keyAllowed then throw .malformed
  let progress := if progress.inFlow then progress else progress.enterHere .sequenceStart
  let progress ← progress.giveUpKey
  return { progress.take .item 1 with keyAllowed := true }

/-- Reads the sign of a key. In block form it may start a mapping. -/
def explicitKey (progress : Progress) : Except Error Progress := do
  if !progress.inFlow && !progress.keyAllowed then throw .malformed
  let progress := if progress.inFlow then progress else progress.enterHere .mappingStart
  let progress ← progress.giveUpKey
  return { progress.take .key 1 with keyAllowed := !progress.inFlow }

/-- Reads the sign of a value. It makes the possible key a key, and in block form the key may start
a mapping. Without a key in front of it the sign stands for itself. -/
def value (progress : Progress) : Except Error Progress :=
  match progress.possibleKey? with
  | some key =>
    let starts := !progress.inFlow && progress.isDeeper key.column
    let progress := if starts then progress.enter key.column else progress
    let progress := { progress.setPossibleKey none with
      slots := progress.slots.modify key.slot fun _ => .key starts }
    .ok { progress.take .value 1 with keyAllowed := false }
  | none => do
    if !progress.inFlow && !progress.keyAllowed then throw .malformed
    let progress := if progress.inFlow then progress else progress.enterHere .mappingStart
    let progress ← progress.giveUpKey
    return { progress.take .value 1 with keyAllowed := !progress.inFlow }

/-- Reads a scalar between quotes. -/
def quotedScalar (progress : Progress) (bound : Nat) (isDouble : Bool) : Except Error Progress := do
  let progress ← progress.noteKey
  let (content, behind) ← quoted isDouble bound progress.place.next
  return { progress.push (.scalar content false) with place := behind, keyAllowed := false }

/-- Reads a block of lines. -/
def blockScalar (progress : Progress) (bound : Nat) (isFolded : Bool) : Except Error Progress := do
  let progress ← progress.giveUpKey
  let (content, behind) ← block isFolded progress.indent bound progress.place.next
  return { progress.push (.scalar content false) with place := behind, keyAllowed := true }

/-- Reads a scalar without quotes. -/
def plainScalar (progress : Progress) (bound : Nat) : Except Error Progress := do
  let progress ← progress.noteKey
  let (content, behind, crossesLines) :=
    plain progress.inFlow (progress.indent + 1) bound progress.place
  return { progress.push (.scalar content true) with place := behind, keyAllowed := crossesLines }

/-- Reads the token that begins with a code point, given what follows that. -/
def token (progress : Progress) (bound : Nat) (first : CodePoint) (rest : Text) :
    Except Error Progress :=
  let place := progress.place
  let lineStart := place.column == 0
  let alone := atGap rest
  if lineStart && first = .char '%' then .error .malformed
  else if lineStart && place.atMark (.char '-') then progress.documentMark .documentStart
  else if lineStart && place.atMark (.char '.') then progress.documentMark .documentEnd
  else if first = .char '[' then progress.flowStart .flowSequenceStart
  else if first = .char '\x7b' then progress.flowStart .flowMappingStart
  else if first = .char ']' then progress.flowEnd .flowSequenceEnd
  else if first = .char '\x7d' then progress.flowEnd .flowMappingEnd
  else if first = .char ',' then progress.comma
  else if first = .char '-' ∧ alone then progress.item
  else if first = .char '?' ∧ (progress.inFlow ∨ alone) then progress.explicitKey
  else if first = .char ':' ∧ (progress.inFlow ∨ alone) then progress.value
  else if first = .char '|' ∧ !progress.inFlow then progress.blockScalar bound false
  else if first = .char '>' ∧ !progress.inFlow then progress.blockScalar bound true
  else if first = .char '\'' then progress.quotedScalar bound false
  else if first = .char '"' then progress.quotedScalar bound true
  else if beginsPlain progress.inFlow place.rest then progress.plainScalar bound
  else .error .malformed

/-- Goes on to the next token. A line break in block form allows a key. -/
def toToken (progress : Progress) (bound : Nat) : Except Error Progress := do
  let (crossed, place) := progress.place.toContent bound false
  let progress := { progress with
    place := place
    keyAllowed := progress.keyAllowed || (crossed && !progress.inFlow) }
  return (← progress.giveUpLateKeys).leaveTo place.column

/-- Ends what is open in block form; nothing may be open in flow form. -/
def finish (progress : Progress) : Except Error (List Token) := do
  if progress.inFlow then throw .malformed
  let progress ← (progress.leaveTo (-1)).giveUpKey
  return progress.slots.toList.flatMap Slot.tokens

/-- Reads on to the end, given a bound on the tokens that are left, and one for each of them. -/
def tokens (bound : Nat) : Nat → Progress → Except Error (List Token)
  | 0, _ => .error .malformed
  | left + 1, progress => do
    let progress ← progress.toToken bound
    match progress.place.rest with
    | [] => progress.finish
    | first :: rest => tokens bound left (← progress.token bound first rest)

end Progress

/-- The tokens of a document. -/
def tokens (text : Text) : Except Error (List Token) :=
  let bound := text.length + 1
  Progress.tokens bound bound (.start text)

end Stencil.Yaml
