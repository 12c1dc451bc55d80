import Stencil.Template.Parse

/-!
# Visits of tags

Parsing comes to the tags of a template one after the other. A `Visit` is a tag together with the
place from which it was found, which is all that decides what becomes of the text around it
(`Visit.IsNext.splits`) and what parsing does next (`parts_at_tag`).

The equations here are about the parts of a level (`Outcome.parts`). They leave out the bound that
`parseLevel` carries for its termination, so that results of parsing at different places can be
compared.
-/

namespace Stencil.Template

/-! ## Visits -/

/-- A tag as parsing comes to it. -/
structure Visit where
  cursor : Cursor
  occurrence : Tag.Occurrence

namespace Visit

/-- What becomes of the text around the tag. -/
def placement (visit : Visit) : Placement :=
  .of visit.cursor visit.occurrence

/-- What the tag asks for. -/
def request (visit : Visit) : Tag.Request :=
  visit.occurrence.tag.request visit.placement.indent

/-- The line break that disappears with the tag, if the tag disappears with its line. -/
def lineBreak? (visit : Visit) : Option Text :=
  Placement.lineBreak? visit.cursor visit.occurrence

/-- The place behind the tag. -/
def next (visit : Visit) : Cursor :=
  visit.placement.next

/-- The line breaks before the tag. -/
def breaks (visit : Visit) : Nat :=
  visit.cursor.breaks + Text.lineBreaks visit.occurrence.content

/-- The text up to the place behind the tag: what is kept, and what disappears. -/
def text (visit : Visit) : Text :=
  visit.placement.keptSource ++ visit.placement.removed

/-- The tag is the next one for some delimiters. -/
def IsNext (visit : Visit) (delimiters : Delimiters) : Prop :=
  Tag.find? delimiters visit.cursor.rest = some visit.occurrence

/-- The text that several visits take up. -/
def textOf (visits : List Visit) : Text :=
  visits.flatMap text

@[simp] theorem textOf_nil : textOf [] = [] :=
  rfl

@[simp] theorem textOf_cons (visit : Visit) (visits : List Visit) :
    textOf (visit :: visits) = visit.text ++ textOf visits :=
  List.flatMap_cons

@[simp] theorem textOf_append (first second : List Visit) :
    textOf (first ++ second) = textOf first ++ textOf second :=
  List.flatMap_append

end Visit

end Stencil.Template

namespace Stencil

/-- The four parts of an occurrence and what follows its line break make up the text. -/
theorem Placement.rest_eq (cursor : Cursor) (occurrence : Tag.Occurrence) :
    occurrence.rest =
      (lineBreak? cursor occurrence).getD [] ++ (Placement.of cursor occurrence).next.rest := by
  unfold Placement.of
  split
  · rename_i lineBreak breaks
    have begins : lineBreak <+: occurrence.rest := by
      unfold lineBreak? at breaks
      split at breaks
      · simp at breaks
      · exact lineEnd?_isPrefix breaks
    obtain ⟨remainder, rest⟩ := begins
    simp [breaks, Cursor.past, ← rest]
  · rename_i breaks
    simp [breaks, Cursor.past]

/-- What is kept and what disappears are the parts of an occurrence and its line break. -/
theorem Placement.text_eq (cursor : Cursor) (occurrence : Tag.Occurrence) :
    (Placement.of cursor occurrence).keptSource ++ (Placement.of cursor occurrence).removed =
      occurrence.content ++ occurrence.blank ++ occurrence.source ++
        (lineBreak? cursor occurrence).getD [] := by
  unfold Placement.of
  split
  · rename_i breaks
    simp [breaks]
  · rename_i breaks
    simp [breaks]

/-- The place behind a tag is reached through what is kept and what disappears. -/
theorem Placement.next_eq_past (cursor : Cursor) (occurrence : Tag.Occurrence) :
    (Placement.of cursor occurrence).next =
      cursor.past ((Placement.of cursor occurrence).keptSource ++
        (Placement.of cursor occurrence).removed) (Placement.of cursor occurrence).next.rest := by
  unfold Placement.of
  split <;> simp [Cursor.past]

end Stencil

namespace Stencil.Template

namespace Visit

/-- A tag disappears with its line if it asks for no value and if a line begins before it and ends
behind it. -/
theorem lineBreak?_eq_some_iff {visit : Visit} {lineBreak : Text} :
    visit.lineBreak? = some lineBreak ↔
      visit.occurrence.tag.isInterpolation = false ∧
        Placement.beginsLine visit.cursor visit.occurrence.content = true ∧
        lineEnd? visit.occurrence.rest = some lineBreak := by
  unfold lineBreak? Placement.lineBreak?
  cases visit.occurrence.tag.isInterpolation <;>
    cases Placement.beginsLine visit.cursor visit.occurrence.content <;> simp

/-- What is kept before a tag are the text and, unless they are its indentation, the blanks. -/
theorem kept_eq (visit : Visit) :
    visit.placement.kept = Node.literals visit.occurrence.content ++
      if visit.lineBreak?.isSome then [] else Node.literals visit.occurrence.blank := by
  unfold placement Placement.of lineBreak?
  split
  · rename_i breaks
    simp [breaks]
  · rename_i breaks
    simp [breaks]

/-- What is kept before a tag, as it is written. -/
theorem keptSource_eq (visit : Visit) :
    visit.placement.keptSource = visit.occurrence.content ++
      if visit.lineBreak?.isSome then [] else visit.occurrence.blank := by
  unfold placement Placement.of lineBreak?
  split
  · rename_i breaks
    simp [breaks]
  · rename_i breaks
    simp [breaks]

/-- The blanks before a tag are its indentation if it disappears with its line. -/
theorem indent_eq (visit : Visit) :
    visit.placement.indent =
      if visit.lineBreak?.isSome then visit.occurrence.blank else [] := by
  unfold placement Placement.of lineBreak?
  split
  · rename_i breaks
    simp [breaks]
  · rename_i breaks
    simp [breaks]

/-- Behind a tag and its line break is the place from which parsing goes on. -/
theorem rest_eq (visit : Visit) :
    visit.occurrence.rest = visit.lineBreak?.getD [] ++ visit.next.rest :=
  Placement.rest_eq visit.cursor visit.occurrence

/-- A visit takes up the parts of the tag's occurrence and its line break. -/
theorem text_eq (visit : Visit) :
    visit.text = visit.occurrence.content ++ visit.occurrence.blank ++ visit.occurrence.source ++
      visit.lineBreak?.getD [] :=
  Placement.text_eq visit.cursor visit.occurrence

/-- The code point before the place behind a tag is the last one of what the visit takes up. -/
theorem next_previous (visit : Visit) :
    visit.next.previous = visit.text.getLast?.or visit.cursor.previous :=
  congrArg Cursor.previous (Placement.next_eq_past visit.cursor visit.occurrence)

/-- The line breaks before the place behind a tag. -/
theorem next_breaks (visit : Visit) :
    visit.next.breaks = visit.cursor.breaks + Text.lineBreaks visit.text :=
  congrArg Cursor.breaks (Placement.next_eq_past visit.cursor visit.occurrence)

end Visit

/-- A visit takes up the text between the two places. -/
theorem Visit.IsNext.splits {visit : Visit} {delimiters : Delimiters}
    (isNext : visit.IsNext delimiters) : visit.cursor.rest = visit.text ++ visit.next.rest := by
  rw [(Tag.find?_splits isNext).1, visit.rest_eq, visit.text_eq]
  simp only [List.append_assoc]

/-! ## What parsing does at a tag -/

/-- A level without the bound on what is left behind it. -/
structure Parts where
  nodes : List Node
  source : Text
  closing : Text
  next : Option Cursor

/-- Parts with nodes put in front of them, and with the text that these were written in. -/
def Parts.prepend (nodes : List Node) (source : Text) (parts : Parts) : Parts :=
  { parts with nodes := nodes ++ parts.nodes, source := source ++ parts.source }

/-- The parts of a level. -/
def Level.parts {bound : Nat} (level : Level bound) : Parts :=
  ⟨level.nodes, level.source, level.closing, level.next⟩

/-- The parts of a level, or why it cannot be parsed. -/
def Outcome.parts {bound : Nat} (outcome : Outcome bound) : Except ParseError Parts :=
  outcome.2.map Level.parts

@[simp] theorem Outcome.parts_error {bound : Nat} (events : List Event) (error : ParseError) :
    Outcome.parts ((events, .error error) : Outcome bound) = .error error :=
  rfl

@[simp] theorem Outcome.parts_ok {bound : Nat} (events : List Event) (level : Level bound) :
    Outcome.parts ((events, .ok level) : Outcome bound) = .ok level.parts :=
  rfl

@[simp] theorem Outcome.parts_failure {bound : Nat} (events : List Event)
    (cause : ParseError.Cause) (breaks : Nat) :
    (Outcome.failure events cause breaks : Outcome bound).parts = .error ⟨cause, breaks + 1⟩ :=
  rfl

@[simp] theorem Outcome.parts_after {inner outer : Nat} (events : List Event) (nodes : List Node)
    (source : Text) (within : inner ≤ outer) (outcome : Outcome inner) :
    (outcome.after events nodes source within).parts =
      outcome.parts.map (Parts.prepend nodes source) := by
  obtain ⟨_, result⟩ := outcome
  cases result <;> rfl

section AtTag

variable {enclosing : Option Text} {delimiters : Delimiters}

/-- Without a tag the level is the rest of the template. -/
theorem parts_of_absent {cursor : Cursor} (absent : Tag.find? delimiters cursor.rest = none) :
    (parseLevel enclosing delimiters cursor).parts =
      .ok ⟨Node.literals cursor.rest, cursor.rest, [], none⟩ := by
  rw [parseLevel.eq_def]
  split
  · rfl
  · rename_i found
    simp [absent] at found

/-- What parsing does at the next tag. -/
theorem parts_at_tag {visit : Visit} (isNext : visit.IsNext delimiters) :
    (parseLevel enclosing delimiters visit.cursor).parts =
      match visit.request with
      | .emit nodes => (parseLevel enclosing delimiters visit.next).parts.map
          (.prepend (visit.placement.kept ++ nodes) visit.text)
      | .change changed => (parseLevel enclosing changed visit.next).parts.map
          (.prepend visit.placement.kept visit.text)
      | .opens name inverted =>
        (parseLevel (some name) delimiters visit.next).parts.bind fun body =>
          match body.next with
          | none => .error ⟨.unclosed name, visit.next.breaks + 1⟩
          | some next => (parseLevel enclosing delimiters next).parts.map
              (.prepend
                (visit.placement.kept ++
                  [.block name inverted body.source delimiters (some body.nodes)])
                (visit.text ++ (body.source ++ body.closing)))
      | .closes name => match enclosing with
        | none => .error ⟨.unopened name, visit.breaks + 1⟩
        | some expected =>
          if name = expected then
            .ok ⟨visit.placement.kept, visit.placement.keptSource, visit.placement.removed,
              some visit.next⟩
          else .error ⟨.crossed name expected, visit.breaks + 1⟩
      | .refused cause => .error ⟨cause, visit.breaks + 1⟩ := by
  obtain ⟨cursor, occurrence⟩ := visit
  rw [parseLevel.eq_def]
  split
  · rename_i absent
    simp [Visit.IsNext, absent] at isNext
  · rename_i other found
    obtain rfl : other = occurrence := Option.some.inj (found.symm.trans isNext)
    simp only [Visit.request, Visit.placement, Visit.next, Visit.text, Visit.breaks]
    cases other.tag.request (Placement.of cursor other).indent with
    | emit nodes => simp only [Outcome.parts_after]
    | change changed => simp only [Outcome.parts_after]
    | opens name inverted =>
      dsimp only
      split
      · rename_i failed
        simp only [failed, Outcome.parts_error, Except.bind]
      · rename_i body parsed
        simp only [parsed, Outcome.parts_ok, Except.bind, Level.parts]
        split
        · rename_i ended
          simp only [ended, Outcome.parts_failure]
        · rename_i ended
          simp only [ended, Outcome.parts_after, List.append_assoc]
    | closes name =>
      cases enclosing with
      | none => rfl
      | some expected =>
        dsimp only
        split
        · rfl
        · rfl
    | refused cause => rfl

end AtTag

end Stencil.Template
