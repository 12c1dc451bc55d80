import Stencil.Proofs.Template.Body
import Stencil.Proofs.Template.Outline
import Stencil.Proofs.Template.Sighting

/-!
# Parsing an excerpt

An excerpt is the part of a template from some place up to a tail. Parsed alone, it has the tags
that it has in the template, but what disappears with them can differ at its two edges. A line
always begins at its start, and a tag at its end always ends its line. So a tag can disappear with
its line in the excerpt that does not in the template. If this takes a line break away, then the
place in the template is in front of the line break, and the place in the excerpt behind it
(`Cursor.Excerpt`).

What disappears only in the excerpt is lost there (`Visit.lost`). A tag with which nothing is lost
is the same in both, and leads to the same place (`Visit.Excerpt.same`, `Visit.Excerpt.exactNext`).
-/

namespace Stencil

/-! ## Places of an excerpt -/

/-- A line begins at a place. -/
def Cursor.atLineStart (cursor : Cursor) : Bool :=
  cursor.previous.all (· == .char '\n')

/-- A place in a template and one in an excerpt of it, which is behind a line break that was
skipped. -/
structure Cursor.Excerpt (tail skipped : Text) (whole part : Cursor) : Prop where
  rest : whole.rest = skipped ++ (part.rest ++ tail)
  isBreak : lineEnd? skipped = some skipped
  begins : whole.atLineStart = true → part.atLineStart = true
  behindBreak : skipped ≠ [] → part.atLineStart = true

/-- The same place in a template and in an excerpt of it. -/
structure Cursor.ExactExcerpt (tail : Text) (whole part : Cursor) : Prop where
  rest : whole.rest = part.rest ++ tail
  begins : whole.atLineStart = part.atLineStart

/-- The same place is one with nothing skipped. -/
theorem Cursor.ExactExcerpt.excerpt {tail : Text} {whole part : Cursor}
    (same : whole.ExactExcerpt tail part) : whole.Excerpt tail [] part where
  rest := same.rest
  isBreak := rfl
  begins := fun begins => same.begins ▸ begins
  behindBreak := fun skipped => absurd rfl skipped

/-- Whether a line begins before a tag depends on the text before it and on the place. -/
theorem Placement.beginsLine_eq (cursor : Cursor) (content : Text) :
    beginsLine cursor content =
      if content = [] then cursor.atLineStart else content.getLast?.all (· == .char '\n') := by
  unfold beginsLine Cursor.atLineStart
  split
  · rename_i nothing
    obtain ⟨noContent, nothingBefore⟩ := Option.or_eq_none_iff.mp nothing
    rw [List.getLast?_eq_none_iff.mp noContent, nothingBefore]
    rfl
  · rename_i last isLast
    cases ends : content.getLast? with
    | none =>
      rw [ends, Option.none_or] at isLast
      rw [List.getLast?_eq_none_iff.mp ends, isLast]
      rfl
    | some other =>
      rw [ends, Option.some_or] at isLast
      obtain rfl := Option.some.inj isLast
      have nonempty : content ≠ [] := by
        rintro rfl
        simp at ends
      rw [if_neg nonempty]
      rfl

namespace Template

/-! ## Ends of lines in an excerpt -/

/-- A line that ends in the excerpt ends there in the same way as in the template. -/
theorem lineEnd?_of_append {text tail lineBreak left : Text}
    (ends : lineEnd? (text ++ tail) = some lineBreak) (inside : text = lineBreak ++ left) :
    lineEnd? text = some lineBreak := by
  subst inside
  rcases lineEnd?_cases ends with ⟨rfl, isEmpty⟩ | rfl | rfl
  · rw [(List.append_eq_nil_iff.mp isEmpty).1]
    rfl
  · rfl
  · rfl

/-- A line that ends in the excerpt ends in the template, unless it is the excerpt that ends. -/
theorem lineEnd?_append {text lineBreak : Text} (ends : lineEnd? text = some lineBreak)
    (nonempty : text ≠ []) (tail : Text) : lineEnd? (text ++ tail) = some lineBreak := by
  obtain ⟨left, rfl⟩ := lineEnd?_isPrefix ends
  rcases lineEnd?_cases ends with ⟨rfl, isEmpty⟩ | rfl | rfl
  · exact absurd isEmpty nonempty
  · rfl
  · rfl

/-! ## Tags of an excerpt -/

/-- A visit in a template, and the visit of the same tag in an excerpt. -/
structure Visit.Excerpt (tail skipped : Text) (whole part : Visit) : Prop where
  cursor : whole.cursor.Excerpt tail skipped part.cursor
  content : whole.occurrence.content = skipped ++ part.occurrence.content
  blank : whole.occurrence.blank = part.occurrence.blank
  source : whole.occurrence.source = part.occurrence.source
  tag : whole.occurrence.tag = part.occurrence.tag
  rest : whole.occurrence.rest = part.occurrence.rest ++ tail
  reaches : ∃ left, whole.next.rest = left ++ tail
  isNext : ∃ delimiters : Delimiters, delimiters.AreSolid ∧ whole.IsNext delimiters ∧
    part.IsNext delimiters

namespace Visit

/-- The line break that disappears with a tag only in the excerpt. -/
def skippedBy (whole part : Visit) : Text :=
  if whole.lineBreak?.isSome then [] else part.lineBreak?.getD []

/-- What disappears with a tag only in the excerpt: its indentation and the line break. -/
def lost (whole part : Visit) : Text :=
  if whole.lineBreak?.isSome then []
  else match part.lineBreak? with
    | none => []
    | some lineBreak => part.occurrence.blank ++ lineBreak

end Visit

section Visit

variable {tail skipped left : Text} {whole part : Visit} {place : Cursor} {delimiters : Delimiters}

/-- A tag that is in an excerpt is found there. -/
theorem Visit.IsNext.exists_excerpt (isNext : whole.IsNext delimiters)
    (solid : delimiters.AreSolid) (cut : whole.cursor.Excerpt tail skipped place)
    (reaches : whole.next.rest = left ++ tail) :
    ∃ part : Visit, part.cursor = place ∧ part.IsNext delimiters ∧
      whole.Excerpt tail skipped part := by
  have found : (Tag.find? delimiters (place.rest ++ tail)).map (Tag.Occurrence.prepend skipped) =
      some whole.occurrence := by
    rw [← Tag.find?_append_of_lineEnd? solid cut.isBreak, ← cut.rest]
    exact isNext
  obtain ⟨occurrence, isThere, prepended⟩ := Option.map_eq_some_iff.mp found
  have sameRest : occurrence.rest = whole.occurrence.rest := by
    rw [← prepended]
    rfl
  have ends : occurrence.rest = whole.lineBreak?.getD [] ++ left ++ tail := by
    rw [sameRest, whole.rest_eq, reaches, List.append_assoc]
  have partIsNext := Tag.find?_cut solid isThere ends
  refine ⟨⟨place, { occurrence with rest := whole.lineBreak?.getD [] ++ left }⟩, rfl, partIsNext,
    cut, ?_, ?_, ?_, ?_, sameRest.symm.trans ends, ⟨left, reaches⟩,
    ⟨delimiters, solid, isNext, partIsNext⟩⟩
  all_goals
    rw [← prepended]
    rfl

/-- A line begins behind a tag exactly if a line break has disappeared with it. -/
theorem Visit.IsNext.atLineStart_next_iff {visit : Visit} (isNext : visit.IsNext delimiters)
    (solid : delimiters.AreSolid) :
    visit.next.atLineStart = true ↔ visit.lineBreak?.getD [] ≠ [] := by
  obtain ⟨last, isLast, kind⟩ := isNext.exists_getLast?_text solid
  rw [Cursor.atLineStart, visit.next_previous, isLast, Option.some_or, Option.all_some, beq_iff_eq]
  split at kind
  · rename_i nothing
    constructor
    · rintro rfl
      exact absurd kind (by decide)
    · exact fun something => absurd nothing something
  · rename_i something
    exact ⟨fun _ => something, fun _ => kind⟩

namespace Visit.Excerpt

/-- Where a line begins before a tag in the template, one begins in the excerpt. -/
theorem beginsLine (cut : whole.Excerpt tail skipped part)
    (begins : Placement.beginsLine whole.cursor whole.occurrence.content = true) :
    Placement.beginsLine part.cursor part.occurrence.content = true := by
  rw [Placement.beginsLine_eq] at begins ⊢
  rw [cut.content] at begins
  split
  · rename_i noContent
    rw [noContent, List.append_nil] at begins
    split at begins
    · exact cut.cursor.begins begins
    · rename_i skips
      exact cut.cursor.behindBreak skips
  · rename_i content
    rw [if_neg (List.append_ne_nil_of_right_ne_nil skipped content), List.getLast?_append,
      List.getLast?_eq_some_getLast content, Option.some_or] at begins
    rw [List.getLast?_eq_some_getLast content]
    exact begins

/-- A tag that disappears with its line in the template does so in the excerpt. -/
theorem lineBreak? (cut : whole.Excerpt tail skipped part) {lineBreak : Text}
    (breaks : whole.lineBreak? = some lineBreak) : part.lineBreak? = some lineBreak := by
  obtain ⟨organises, begins, ends⟩ := Visit.lineBreak?_eq_some_iff.mp breaks
  obtain ⟨left, reaches⟩ := cut.reaches
  have inside : part.occurrence.rest = lineBreak ++ left := by
    have rest := whole.rest_eq
    rw [breaks, Option.getD_some, reaches, cut.rest, ← List.append_assoc] at rest
    exact List.append_cancel_right rest
  rw [cut.rest] at ends
  exact Visit.lineBreak?_eq_some_iff.mpr
    ⟨cut.tag ▸ organises, cut.beginsLine begins, lineEnd?_of_append ends inside⟩

/-- Behind a tag with which the same line break has disappeared the places are the same. -/
theorem exactNext (cut : whole.Excerpt tail skipped part)
    (sameBreak : part.lineBreak?.getD [] = whole.lineBreak?.getD []) :
    whole.next.ExactExcerpt tail part.next := by
  obtain ⟨delimiters, solid, wholeIsNext, partIsNext⟩ := cut.isNext
  constructor
  · have rest := cut.rest
    rw [whole.rest_eq, part.rest_eq, sameBreak, List.append_assoc] at rest
    exact List.append_cancel_left rest
  · rw [Bool.eq_iff_iff, wholeIsNext.atLineStart_next_iff solid,
      partIsNext.atLineStart_next_iff solid, sameBreak]

/-- Behind a tag the place in the excerpt is the place in the template, or it is behind a line break
that has disappeared only in the excerpt. -/
theorem next (cut : whole.Excerpt tail skipped part) :
    whole.next.Excerpt tail (whole.skippedBy part) part.next := by
  unfold skippedBy
  cases breaks : whole.lineBreak? with
  | some lineBreak =>
    have sameBreak : part.lineBreak?.getD [] = whole.lineBreak?.getD [] := by
      rw [breaks, cut.lineBreak? breaks]
    exact (cut.exactNext sameBreak).excerpt
  | none =>
    obtain ⟨delimiters, solid, wholeIsNext, partIsNext⟩ := cut.isNext
    have notBegins : ¬ whole.next.atLineStart = true := by
      rw [wholeIsNext.atLineStart_next_iff solid, breaks]
      simp
    refine ⟨?_, ?_, fun begins => absurd begins notBegins,
      (partIsNext.atLineStart_next_iff solid).mpr⟩
    · have rest := cut.rest
      rw [whole.rest_eq, part.rest_eq, breaks, List.append_assoc] at rest
      exact rest
    · cases partBreaks : part.lineBreak? with
      | none => rfl
      | some lineBreak => exact lineEnd?_self (Visit.lineBreak?_eq_some_iff.mp partBreaks).2.2

/-- What is kept before a tag only in the template are the line break that was skipped before and
the indentation that is lost. -/
theorem length_keptSource (cut : whole.Excerpt tail skipped part) :
    part.placement.keptSource.length + skipped.length + (whole.lost part).length =
      whole.placement.keptSource.length + (whole.skippedBy part).length := by
  rw [whole.keptSource_eq, part.keptSource_eq, cut.content, cut.blank, lost, skippedBy]
  cases breaks : whole.lineBreak? with
  | none =>
    cases part.lineBreak? <;> simp <;> omega
  | some lineBreak =>
    rw [cut.lineBreak? breaks]
    simp
    omega

/-- A tag asks for the same in the excerpt, but for the indentation. -/
theorem outline_request (cut : whole.Excerpt tail skipped part) :
    whole.request.outline = part.request.outline := by
  rw [Visit.request, Visit.request, Tag.outline_request, Tag.outline_request, cut.tag]

/-- A tag that asks for nodes asks for nodes with the same outline in the excerpt. -/
theorem exists_emit (cut : whole.Excerpt tail skipped part) {nodes : List Node}
    (asked : whole.request = .emit nodes) :
    ∃ others, part.request = .emit others ∧ Node.outlineAll others = Node.outlineAll nodes :=
  Tag.Request.exists_emit_of_outline_eq cut.outline_request asked

/-- A tag that asks for no nodes asks for the same in the excerpt. -/
theorem request_eq (cut : whole.Excerpt tail skipped part)
    (asksNothing : ∀ nodes, whole.request ≠ .emit nodes) : part.request = whole.request :=
  Tag.Request.eq_of_outline_eq cut.outline_request asksNothing

/-! ### Tags with which nothing is lost -/

/-- With nothing lost the same line break has disappeared. -/
theorem sameBreak (cut : whole.Excerpt tail skipped part) (nothing : whole.lost part = []) :
    part.lineBreak?.getD [] = whole.lineBreak?.getD [] := by
  unfold lost at nothing
  cases breaks : whole.lineBreak? with
  | some lineBreak => rw [cut.lineBreak? breaks]
  | none =>
    rw [breaks] at nothing
    cases partBreaks : part.lineBreak? with
    | none => rfl
    | some lineBreak =>
      rw [partBreaks] at nothing
      exact (List.append_eq_nil_iff.mp nothing).2

/-- With nothing lost no line break is skipped. -/
theorem skippedBy_eq_nil (cut : whole.Excerpt tail skipped part)
    (nothing : whole.lost part = []) : whole.skippedBy part = [] := by
  rw [skippedBy, cut.sameBreak nothing]
  cases whole.lineBreak? <;> rfl

/-- With nothing lost the same is kept before a tag, and the tag asks for the same. -/
theorem same (cut : whole.Excerpt tail [] part) (nothing : whole.lost part = []) :
    part.placement.kept = whole.placement.kept ∧
      part.placement.keptSource = whole.placement.keptSource ∧
      part.request = whole.request ∧ part.text = whole.text := by
  have sameContent : whole.occurrence.content = part.occurrence.content := cut.content
  rw [part.text_eq, whole.text_eq, cut.sameBreak nothing, part.kept_eq, whole.kept_eq,
    part.keptSource_eq, whole.keptSource_eq, Visit.request, Visit.request, part.indent_eq,
    whole.indent_eq, sameContent, cut.blank, cut.tag, cut.source]
  unfold lost at nothing
  cases breaks : whole.lineBreak? with
  | some lineBreak =>
    rw [cut.lineBreak? breaks]
    exact ⟨rfl, rfl, rfl, rfl⟩
  | none =>
    rw [breaks] at nothing
    cases partBreaks : part.lineBreak? with
    | none => exact ⟨rfl, rfl, rfl, rfl⟩
    | some lineBreak =>
      rw [partBreaks] at nothing
      rw [(List.append_eq_nil_iff.mp nothing).1]
      exact ⟨rfl, rfl, rfl, rfl⟩

end Visit.Excerpt

end Visit

end Template

end Stencil
