import Stencil.Proofs.Template.Alongside

/-!
# The same text in another place

What parsing makes of a text depends on the place of the text only through two things. Whether a
line begins there decides what becomes of the first tag (`levelParts_eq_of_atLineStart`), and the
number of the lines before it is added to the line of a report (`levelParts_below`).
-/

namespace Stencil

/-! ## Places further down -/

/-- A report with more lines before it. -/
def ParseError.below (lines : Nat) (error : ParseError) : ParseError :=
  { error with line := error.line + lines }

/-- A place with more lines before it. -/
def Cursor.below (lines : Nat) (cursor : Cursor) : Cursor :=
  { cursor with breaks := cursor.breaks + lines }

/-- What becomes of the text around a tag does not depend on the lines before it. -/
theorem Placement.of_below (lines : Nat) (cursor : Cursor) (occurrence : Tag.Occurrence) :
    Placement.of (cursor.below lines) occurrence =
      { Placement.of cursor occurrence with
        next := (Placement.of cursor occurrence).next.below lines } := by
  have sameBreak : lineBreak? (cursor.below lines) occurrence = lineBreak? cursor occurrence := rfl
  unfold Placement.of
  rw [sameBreak]
  cases lineBreak? cursor occurrence <;>
    simp [Cursor.past, Cursor.below, Nat.add_right_comm cursor.breaks]

namespace Template

/-- The parts of the level that begins at a place, or why it cannot be parsed. -/
def levelParts (enclosing : Option Text) (delimiters : Delimiters) (cursor : Cursor) :
    Except ParseError Parts :=
  (parseLevel enclosing delimiters cursor).parts

/-- The parts of a level are those of the place that it begins at. -/
theorem parts_eq_levelParts (enclosing : Option Text) (delimiters : Delimiters) (cursor : Cursor) :
    (parseLevel enclosing delimiters cursor).parts = levelParts enclosing delimiters cursor :=
  rfl

/-- The parts of a level with more lines before it. -/
def Parts.below (lines : Nat) (parts : Parts) : Parts :=
  { parts with next := parts.next.map (Cursor.below lines) }

/-- What parsing a level comes to with more lines before it. -/
def resultBelow (lines : Nat) (result : Except ParseError Parts) : Except ParseError Parts :=
  (result.map (Parts.below lines)).mapError (ParseError.below lines)

/-- A visit with more lines before it. -/
def Visit.below (lines : Nat) (visit : Visit) : Visit :=
  { visit with cursor := visit.cursor.below lines }

section Below

variable {lines : Nat} {enclosing : Option Text} {delimiters : Delimiters} {cursor : Cursor}

@[simp] theorem resultBelow_error (cause : ParseError.Cause) (breaks : Nat) :
    resultBelow lines (.error ⟨cause, breaks + 1⟩) = .error ⟨cause, breaks + lines + 1⟩ := by
  rw [← Nat.add_right_comm breaks 1 lines]
  rfl

@[simp] theorem resultBelow_ok (parts : Parts) :
    resultBelow lines (.ok parts) = .ok (parts.below lines) :=
  rfl

@[simp] theorem resultBelow_map_prepend (nodes : List Node) (source : Text)
    (result : Except ParseError Parts) :
    resultBelow lines (result.map (.prepend nodes source)) =
      (resultBelow lines result).map (.prepend nodes source) := by
  cases result <;> rfl

/-- What is done with the parts of a level can be done with those that have more lines before
them. -/
theorem bind_resultBelow {result : Except ParseError Parts}
    {onward below : Parts → Except ParseError Parts}
    (same : ∀ parts, result = .ok parts →
      below (parts.below lines) = resultBelow lines (onward parts)) :
    (resultBelow lines result).bind below = resultBelow lines (result.bind onward) := by
  cases result with
  | error => rfl
  | ok parts => exact same parts rfl

@[simp] theorem Visit.next_below (visit : Visit) :
    (visit.below lines).next = visit.next.below lines := by
  simp [Visit.next, Visit.placement, Visit.below, Placement.of_below]

@[simp] theorem Visit.kept_below (visit : Visit) :
    (visit.below lines).placement.kept = visit.placement.kept := by
  simp [Visit.placement, Visit.below, Placement.of_below]

@[simp] theorem Visit.keptSource_below (visit : Visit) :
    (visit.below lines).placement.keptSource = visit.placement.keptSource := by
  simp [Visit.placement, Visit.below, Placement.of_below]

@[simp] theorem Visit.removed_below (visit : Visit) :
    (visit.below lines).placement.removed = visit.placement.removed := by
  simp [Visit.placement, Visit.below, Placement.of_below]

@[simp] theorem Visit.text_below (visit : Visit) : (visit.below lines).text = visit.text := by
  simp [Visit.text]

@[simp] theorem Visit.request_below (visit : Visit) :
    (visit.below lines).request = visit.request := by
  simp [Visit.request, Visit.placement, Visit.below, Placement.of_below]

@[simp] theorem Visit.breaks_below (visit : Visit) :
    (visit.below lines).breaks = visit.breaks + lines := by
  simp [Visit.breaks, Visit.below, Cursor.below, Nat.add_right_comm]

/-- Parsing goes on behind a closed section nearer to the end of the template. -/
theorem rest_shorter_of_parts_eq_ok {parts : Parts} {next : Cursor}
    (parsed : levelParts enclosing delimiters cursor = .ok parts)
    (closed : parts.next = some next) : next.rest.length < cursor.rest.length := by
  obtain ⟨level, -, rfl⟩ := exists_of_map_eq_ok parsed
  exact level.next_shorter next closed

/-- With more lines before it a level comes to the same, and a report is as many lines further
down. -/
theorem levelParts_below (lines : Nat) (enclosing : Option Text) (delimiters : Delimiters)
    (cursor : Cursor) :
    levelParts enclosing delimiters (cursor.below lines) =
      resultBelow lines (levelParts enclosing delimiters cursor) := by
  induction length : cursor.rest.length using Nat.strongRecOn
    generalizing enclosing delimiters cursor with
  | _ bound inductionHypothesis =>
    subst length
    cases found : Tag.find? delimiters cursor.rest with
    | none =>
      have absent : Tag.find? delimiters (cursor.below lines).rest = none := found
      rw [levelParts, levelParts, parts_of_absent found, parts_of_absent absent]
      rfl
    | some occurrence =>
      obtain ⟨visit, rfl, isNext⟩ : ∃ visit : Visit, visit.cursor = cursor ∧
          visit.IsNext delimiters := ⟨⟨cursor, occurrence⟩, rfl, found⟩
      have below : (visit.below lines).IsNext delimiters := isNext
      have shorter : visit.next.rest.length < visit.cursor.rest.length :=
        Placement.next_shorter isNext
      have fromNext := fun enclosing delimiters =>
        inductionHypothesis _ shorter enclosing delimiters visit.next rfl
      change levelParts enclosing delimiters (visit.below lines).cursor = _
      rw [levelParts, levelParts, parts_at_tag below, parts_at_tag isNext]
      simp only [parts_eq_levelParts, Visit.request_below, Visit.next_below, Visit.kept_below,
        Visit.text_below, Visit.breaks_below, Visit.keptSource_below, Visit.removed_below, fromNext]
      cases visit.request with
      | emit nodes => simp
      | change changed => simp
      | opens name inverted =>
        apply bind_resultBelow
        intro body parsed
        cases closed : body.next with
        | none => simp [Parts.below, Cursor.below, closed]
        | some next =>
          have further := Nat.lt_trans (rest_shorter_of_parts_eq_ok parsed closed) shorter
          have fromThere := inductionHypothesis _ further enclosing delimiters next rfl
          simp [Parts.below, closed, fromThere]
      | closes name =>
        cases enclosing with
        | none => simp
        | some expected =>
          by_cases same : name = expected
          · simp [same, Parts.below]
          · simp [same]
      | refused cause => simp

end Below

/-! ## Places where a line begins -/

section Begins

variable {enclosing : Option Text} {delimiters : Delimiters} {cursor other : Cursor}

/-- What becomes of the text around a tag depends on the code point before it only in that a line
begins behind it or not. -/
theorem placement_eq_of_atLineStart {occurrence : Tag.Occurrence}
    (breaks : other.breaks = cursor.breaks) (begins : other.atLineStart = cursor.atLineStart)
    (nonempty : occurrence.source ≠ []) :
    Placement.of other occurrence = Placement.of cursor occurrence := by
  have sameBreak : Placement.lineBreak? other occurrence =
      Placement.lineBreak? cursor occurrence := by
    rw [Placement.lineBreak?, Placement.lineBreak?, Placement.beginsLine_eq,
      Placement.beginsLine_eq, begins]
  have past : ∀ before after rest,
      other.past (before ++ occurrence.source ++ after) rest =
        cursor.past (before ++ occurrence.source ++ after) rest := by
    intro before after rest
    have something : before ++ occurrence.source ++ after ≠ [] := by simp [nonempty]
    rw [Cursor.past, Cursor.past, breaks, List.getLast?_eq_some_getLast something, Option.some_or,
      Option.some_or]
  have pastTag := fun before rest => past before [] rest
  simp only [List.append_nil] at pastTag
  unfold Placement.of
  rw [sameBreak]
  cases Placement.lineBreak? cursor occurrence <;> simp only [past, pastTag]

/-- Parsing depends on the code point before a place only in that a line begins behind it or not. -/
theorem levelParts_eq_of_atLineStart (rest : other.rest = cursor.rest)
    (breaks : other.breaks = cursor.breaks) (begins : other.atLineStart = cursor.atLineStart) :
    levelParts enclosing delimiters other = levelParts enclosing delimiters cursor := by
  cases found : Tag.find? delimiters cursor.rest with
  | none =>
    have absent : Tag.find? delimiters other.rest = none := rest ▸ found
    rw [levelParts, levelParts, parts_of_absent found, parts_of_absent absent, rest]
  | some occurrence =>
    have isNext : Visit.IsNext ⟨cursor, occurrence⟩ delimiters := found
    have otherIsNext : Visit.IsNext ⟨other, occurrence⟩ delimiters := by
      rw [Visit.IsNext, rest]
      exact found
    have same := placement_eq_of_atLineStart breaks begins (Tag.find?_splits found).2
    rw [levelParts, levelParts, parts_at_tag isNext, parts_at_tag otherIsNext]
    simp only [parts_eq_levelParts, Visit.request, Visit.placement, Visit.next, Visit.text,
      Visit.breaks, same, breaks]

end Begins

end Template

end Stencil
