import Stencil.Proofs.Computation
import Stencil.Proofs.Template.Place
import Stencil.Proofs.Template.Progress
import Stencil.Proofs.Template.Section

/-!
# Scanning by offsets

Parsing hands on the rest of the template. A scan keeps the whole template and an offset into it
instead: it looks for the next tag from the offset on, computes by arithmetic where the tag begins
and ends, reads the code point before it by its index, and cuts the text of a section out between
two offsets. Nothing in this guarantees by itself that the offsets get larger, that they stay in the
template, or that the scan ever ends. So a scan is given a number of rounds, it stops where it would
read outside of the template, and it records what it does with its offsets (`Scan.Step`).

The place of a parse at an offset is `Cursor.ofOffset`. It moves behind a piece of text as the
offset does (`Cursor.ofOffset_past`).
-/

namespace Stencil

/-! ## Places by their offsets -/

/-- The place at an offset of a template. -/
def Cursor.ofOffset (template : Text) (offset : Nat) : Cursor :=
  (Cursor.start template).past (template.take offset) (template.drop offset)

section Offset

variable {template piece rest : Text} {offset : Nat}

/-- The text behind an offset. -/
@[simp]
theorem Cursor.ofOffset_rest (template : Text) (offset : Nat) :
    (ofOffset template offset).rest = template.drop offset :=
  rfl

/-- The line breaks before an offset. -/
@[simp]
theorem Cursor.ofOffset_breaks (template : Text) (offset : Nat) :
    (ofOffset template offset).breaks = Text.lineBreaks (template.take offset) :=
  Nat.zero_add _

/-- A place is behind nothing. -/
theorem Cursor.past_nil (cursor : Cursor) : cursor.past [] cursor.rest = cursor := by
  simp [past, Text.lineBreaks]

/-- A place behind two pieces of text, one after the other. -/
theorem Cursor.past_past (cursor : Cursor) (first second between behind : Text) :
    (cursor.past first between).past second behind = cursor.past (first ++ second) behind := by
  simp [past, List.getLast?_append, Option.or_assoc, Nat.add_assoc]

/-- The text up to the end of a piece. -/
theorem Text.take_add_length (splits : template.drop offset = piece ++ rest) :
    template.take (offset + piece.length) = template.take offset ++ piece := by
  rw [List.take_add, splits, List.take_left]

/-- The text behind a piece. -/
theorem Text.drop_add_length (splits : template.drop offset = piece ++ rest) :
    template.drop (offset + piece.length) = rest := by
  rw [← List.drop_drop, splits, List.drop_left]

/-- A piece of the text ends in the text. -/
theorem Text.add_length_le (splits : template.drop offset = piece ++ rest) (within : piece ≠ []) :
    offset + piece.length ≤ template.length := by
  have positive := List.length_pos_iff.mpr within
  have lengths := congrArg List.length splits
  rw [List.length_drop, List.length_append] at lengths
  omega

/-- The place behind a piece of text has the offset behind it. -/
theorem Cursor.ofOffset_past (splits : template.drop offset = piece ++ rest) :
    (ofOffset template offset).past piece rest = ofOffset template (offset + piece.length) := by
  rw [ofOffset, past_past, ofOffset, Text.take_add_length splits, Text.drop_add_length splits]

/-- What is cut out up to an offset, and a piece behind it. -/
theorem Text.slice_add_length {start : Nat} (splits : template.drop offset = piece ++ rest)
    (before : start ≤ offset) (within : offset ≤ template.length) :
    template.slice start (offset + piece.length) = template.slice start offset ++ piece := by
  have begins : start ≤ (template.take offset).length := by
    rw [List.length_take]
    omega
  rw [slice, take_add_length splits, List.drop_append_of_le_length begins, slice]

end Offset

namespace Template

/-- The place behind a tag is behind what the visit takes up. -/
theorem Visit.next_eq_past (visit : Visit) :
    visit.next = visit.cursor.past visit.text visit.next.rest :=
  Placement.next_eq_past visit.cursor visit.occurrence

/-- The place that a passage leads to is behind what its visits take up. -/
theorem Passage.last_eq_past {delimiters active : Delimiters} {cursor last : Cursor}
    {visits : List Visit} {pairs : List (Visit × Visit)} {nodes : List Node}
    (passage : Passage delimiters cursor visits pairs nodes active last) :
    last = cursor.past (Visit.textOf visits) last.rest := by
  induction passage with
  | stay => exact (Cursor.past_nil _).symm
  | @emit _ visit _ _ _ _ _ last _ _ _ further
  | @change _ visit _ _ _ _ _ last _ _ _ further =>
    rw [Visit.textOf_cons, ← Cursor.past_past visit.cursor visit.text _ visit.next.rest,
      ← visit.next_eq_past]
    exact further
  | @block _ opening _ _ inside _ _ _ closing visits _ _ _ last _ _ _ _ _ _ inner beyond =>
    calc last
        = (closing.cursor.past closing.text closing.next.rest).past (Visit.textOf visits)
            last.rest := by rw [← closing.next_eq_past]; exact beyond
      _ = ((opening.next.past (Visit.textOf inside) closing.cursor.rest).past closing.text
            closing.next.rest).past (Visit.textOf visits) last.rest := by rw [← inner]
      _ = _ := by
        rw [opening.next_eq_past]
        simp only [Cursor.past_past, Visit.textOf_cons, Visit.textOf_append, List.append_assoc]

/-! ## Scans -/

namespace Scan

/-- What a scan does with its offsets. -/
inductive Step where
  /-- From an offset on a tag was found, with the offsets of its beginning and its end. -/
  | found (offset tagStart stop : Nat)
  /-- The code point with an index was read. -/
  | looked (index : Int)
  /-- The scan went on from an offset to the next one. -/
  | moved (offset next : Nat)
  /-- At a tag found from an offset on, the scan of a section was begun. -/
  | entered (offset start : Nat)
  /-- The scan of a section, begun at one offset, was ended with another one. -/
  | left (start stop : Nat)
  /-- The text of a section was cut out between two offsets. The section ends at the last one. -/
  | sliced (start : Nat) (cut : Int) (stop : Nat)

/-- A step that goes forward and does not leave the template. -/
def Step.IsInBounds (template : Text) : Step → Prop
  | .found offset tagStart stop =>
    offset ≤ tagStart ∧ tagStart < stop ∧ stop ≤ template.length
  | .looked index => 0 ≤ index ∧ index < template.length
  | .moved offset next => offset < next ∧ next ≤ template.length
  | .entered offset start => offset < start ∧ start ≤ template.length
  | .left start stop => start < stop ∧ stop ≤ template.length
  | .sliced start cut stop => start ≤ cut ∧ cut ≤ stop

/-- Why a scan stops without a result. -/
inductive Stop where
  /-- The template is malformed. -/
  | malformed (error : ParseError)
  /-- There is nothing at an index. -/
  | outside (index : Int)
  /-- There are no more rounds. -/
  | unfinished

/-- What a scan has done, and what it has reported. -/
structure Record where
  steps : List Step
  events : List Event

/-- A record with further steps. -/
def Record.add (record : Record) (steps : List Step) (events : List Event) : Record :=
  ⟨record.steps ++ steps, record.events ++ events⟩

/-- What is scanned: the body of a section if there is one, with its first delimiters, from an
offset on. -/
structure Call where
  enclosing : Option Text
  opening : Delimiters
  start : Nat

/-- How far a scan has come. -/
structure Place where
  active : Delimiters
  offset : Nat
  nodes : List Node

/-- What becomes of the text around a tag, by offsets. -/
structure Surroundings where
  kept : List Node
  indent : Text
  /-- Where the text before the tag ends that is kept. -/
  cut : Int
  /-- Where the scan goes on. -/
  next : Nat

end Scan

/-- A computation of a scan. -/
abbrev Scan := ExceptT Scan.Stop (StateM Scan.Record)

namespace Scan

variable {α : Type}

/-- Records a step. -/
def note (step : Step) : Scan Unit :=
  modify fun record => record.add [step] []

/-- Reports an event. -/
def report (event : Event) : Scan Unit :=
  modify fun record => record.add [] [event]

/-- Stops because something is wrong at an offset. -/
def refuse (template : Text) (cause : ParseError.Cause) (offset : Nat) : Scan α :=
  throw (.malformed ⟨cause, Text.lineBreaks (template.take offset) + 1⟩)

/-- Reads the code point with an index. -/
def lookAt (template : Text) (index : Int) : Scan CodePoint := do
  note (.looked index)
  match if index < 0 then none else template[index.toNat]? with
  | some point => return point
  | none => throw (.outside index)

/-- Whether a line begins behind the code point with an index, or behind nothing. -/
def beginsLineBehind (template : Text) (index : Int) : Scan Bool :=
  if index < 0 then pure true
  else do return (← lookAt template index) == .char '\n'

/-- The length of the line break at an offset, none at the end of the template, and less than zero
where there is no line break. -/
def lineBreakAt (template : Text) (offset : Nat) : Int :=
  if [.char '\r', .char '\n'] <+: template.drop offset then 2
  else if [.char '\n'] <+: template.drop offset then 1
  else if template.length ≤ offset then 0 else -1

/-- What becomes of the text around a tag that was found from an offset on. The blanks before the
tag and the line break behind it go with the tag if the tag organises the template, and if the last
code point before the blanks is a line feed or there is none. -/
def surroundings (template : Text) (offset : Nat) (occurrence : Tag.Occurrence) :
    Scan Surroundings := do
  let tagStart := offset + occurrence.content.length + occurrence.blank.length
  let stop := tagStart + occurrence.source.length
  note (.found offset tagStart stop)
  let last : Int := offset + occurrence.content.length - 1
  let beginsLine ← beginsLineBehind template last
  let lineBreak := lineBreakAt template stop
  if beginsLine && 0 ≤ lineBreak && !occurrence.tag.isInterpolation then do
    let next := stop + lineBreak.toNat
    note (.moved offset next)
    return ⟨Node.literals occurrence.content, occurrence.blank, last + 1, next⟩
  else do
    note (.moved offset stop)
    return ⟨Node.literals occurrence.content ++ Node.literals occurrence.blank, [],
      last + occurrence.blank.length + 1, stop⟩

/-- Scans from a place on, in at most so many rounds. -/
def run (template : Text) : Nat → Call → Place → Scan (List Node × Text × Nat)
  | 0, _, _ => throw .unfinished
  | rounds + 1, call, place =>
    match Tag.find? place.active (template.drop place.offset) with
    | none => match call.enclosing with
      | some name => refuse template (.unclosed name) call.start
      | none => return (place.nodes ++ Node.literals (template.drop place.offset), template,
          template.length)
    | some occurrence => do
      let tagStart := place.offset + occurrence.content.length + occurrence.blank.length
      let around ← surroundings template place.offset occurrence
      let nodes := place.nodes ++ around.kept
      match occurrence.tag.request around.indent with
      | .emit more => run template rounds call ⟨place.active, around.next, nodes ++ more⟩
      | .change changed => do
        report (.delimitersChanged changed)
        run template rounds call ⟨changed, around.next, nodes⟩
      | .opens name inverted => do
        note (.entered place.offset around.next)
        let (body, source, stop) ← run template rounds ⟨some name, place.active, around.next⟩
          ⟨place.active, around.next, []⟩
        note (.moved place.offset stop)
        run template rounds call
          ⟨place.active, stop, nodes ++ [.block name inverted source place.active (some body)]⟩
      | .closes name => match call.enclosing with
        | none => refuse template (.unopened name) tagStart
        | some expected =>
          if name = expected then do
            note (.sliced call.start around.cut around.next)
            let source := template.slice call.start around.cut.toNat
            report (.bodyParsed call.opening source nodes)
            note (.left call.start around.next)
            return (nodes, source, around.next)
          else refuse template (.crossed name expected) tagStart
      | .refused cause => refuse template cause tagStart

/-- Scans a template from an offset on, up to its end or to the end of a section. -/
def of (template : Text) (rounds : Nat) (enclosing : Option Text) (delimiters : Delimiters)
    (start : Nat) : Scan (List Node × Text × Nat) :=
  run template rounds ⟨enclosing, delimiters, start⟩ ⟨delimiters, start, []⟩

end Scan

end Template

end Stencil
