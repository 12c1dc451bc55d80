import Stencil.Template.Cursor

/-!
# Parsing a template

A template is parsed level by level: the tags of one level follow each other, and the body of a
section is a level of its own that ends with the closing tag. Each level has its own delimiters, so
that a change of delimiters inside a section ends with the section.

Parsing leaves an account of what happened in the order in which it happened, also when it fails
later: which delimiters were set, and which section bodies were completed. Nothing else of a failed
parse can be seen.
-/

namespace Stencil.Template

/-- What happens while a template is parsed. -/
inductive Event where
  /-- A tag set these delimiters. -/
  | delimitersChanged (delimiters : Delimiters)
  /-- The body of a section was parsed to its end. The delimiters are those it began with. -/
  | bodyParsed (delimiters : Delimiters) (source : Text) (nodes : List Node)

/-- A level that was parsed to its end. -/
structure Level (bound : Nat) where
  nodes : List Node
  /-- The text of the level, without what disappears with the closing tag. -/
  source : Text
  /-- What disappears with the closing tag; nothing at the end of the template. -/
  closing : Text
  /-- The place after the closing tag, if it was not the template that ended. -/
  next : Option Cursor
  next_shorter : ∀ cursor ∈ next, cursor.rest.length < bound

/-- A level and what happened while it was parsed, or why it cannot be parsed. -/
abbrev Outcome (bound : Nat) := List Event × Except ParseError (Level bound)

namespace Level

/-- The level that consists of the remaining text. -/
def ofText (text : Text) : Level text.length where
  nodes := Node.literals text
  source := text
  closing := []
  next := none
  next_shorter := by simp

/-- The level that a closing tag ends. -/
def ofClosing {bound : Nat} (placement : Placement)
    (shorter : placement.next.rest.length < bound) : Level bound where
  nodes := placement.kept
  source := placement.keptSource
  closing := placement.removed
  next := some placement.next
  next_shorter := by simpa using shorter

/-- A level with nodes put in front of it, and with the text that these were written in. -/
def prepend {inner outer : Nat} (nodes : List Node) (source : Text) (within : inner ≤ outer)
    (level : Level inner) : Level outer where
  nodes := nodes ++ level.nodes
  source := source ++ level.source
  closing := level.closing
  next := level.next
  next_shorter := fun cursor member => Nat.lt_of_lt_of_le (level.next_shorter cursor member) within

end Level

namespace Outcome

/-- An outcome with earlier events, nodes and text put in front of it. -/
def after {inner outer : Nat} (events : List Event) (nodes : List Node) (source : Text)
    (within : inner ≤ outer) : Outcome inner → Outcome outer
  | (further, result) => (events ++ further, result.map (Level.prepend nodes source within))

/-- A failure after some events. -/
def failure {bound : Nat} (events : List Event) (cause : ParseError.Cause) (breaks : Nat) :
    Outcome bound :=
  (events, .error ⟨cause, breaks + 1⟩)

end Outcome

/-- Parses one level from a place on. The level is the body of the enclosing section, if there is
one, and ends with the tag that closes it. -/
def parseLevel (enclosing : Option Text) (delimiters : Delimiters) (cursor : Cursor) :
    Outcome cursor.rest.length :=
  match found : Tag.find? delimiters cursor.rest with
  | none => ([], .ok (Level.ofText cursor.rest))
  | some occurrence =>
    let placement := Placement.of cursor occurrence
    let breaks := cursor.breaks + Text.lineBreaks occurrence.content
    have shorter : placement.next.rest.length < cursor.rest.length := Placement.next_shorter found
    match occurrence.tag.request placement.indent with
    | .emit nodes =>
      (parseLevel enclosing delimiters placement.next).after [] (placement.kept ++ nodes)
        (placement.keptSource ++ placement.removed) (Nat.le_of_lt shorter)
    | .change changed =>
      (parseLevel enclosing changed placement.next).after [.delimitersChanged changed]
        placement.kept (placement.keptSource ++ placement.removed) (Nat.le_of_lt shorter)
    | .opens name inverted =>
      match parseLevel (some name) delimiters placement.next with
      | (events, .error error) => (events, .error error)
      | (events, .ok body) =>
        match ended : body.next with
        | none => .failure events (.unclosed name) placement.next.breaks
        | some next =>
          have further : next.rest.length < cursor.rest.length :=
            Nat.lt_trans (body.next_shorter next (by simp [ended])) shorter
          (parseLevel enclosing delimiters next).after
            (events ++ [.bodyParsed delimiters body.source body.nodes])
            (placement.kept ++ [.block name inverted body.source delimiters (some body.nodes)])
            (placement.keptSource ++ (placement.removed ++ (body.source ++ body.closing)))
            (Nat.le_of_lt further)
    | .closes name =>
      match enclosing with
      | none => .failure [] (.unopened name) breaks
      | some expected =>
        if name = expected then ([], .ok (Level.ofClosing placement shorter))
        else .failure [] (.crossed name expected) breaks
    | .refused cause => .failure [] cause breaks
termination_by cursor.rest.length

/-- Parses a template from its start, with the given delimiters. -/
def parse (delimiters : Delimiters) (template : Text) :
    List Event × Except ParseError (List Node) :=
  match parseLevel none delimiters (Cursor.start template) with
  | (events, result) => (events, result.map Level.nodes)

end Stencil.Template
