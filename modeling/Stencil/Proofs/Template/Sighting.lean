import Stencil.Proofs.Template.Passage

/-!
# Tags in the whole of a template

Parsing decides at every tag whether the tag has a line to itself, and all it looks at for that is
the last code point before the place it has come to. A `Sighting` is a tag with the whole of the
text around it. What a line is can be said of it without reference to parsing: the indentation of a
tag are all blanks directly before it, and a tag is standalone if a line begins before the
indentation and ends directly behind the tag.

A place stands in a template (`Cursor.Stands`) if it knows what is true of the text up to it, and if
this text does not end with a blank. This is so at the start, and parsing keeps it up
(`Visit.IsNext.stands`), so that what becomes of the text around a tag is a matter of its sighting
(`Visit.IsNext.lineBreak?_eq`).
-/

namespace Stencil

/-! ## Ends of lines -/

/-- Lines end in three ways. -/
theorem lineEnd?_cases {text lineBreak : Text} (ends : lineEnd? text = some lineBreak) :
    lineBreak = [] ∧ text = [] ∨ lineBreak = [.char '\n'] ∨
      lineBreak = [.char '\r', .char '\n'] := by
  unfold lineEnd? at ends
  split at ends <;> simp_all

/-- A line ends at the end of the text, and before a line feed or the two characters that some
systems end lines with. -/
theorem lineEnd?_isSome_iff {text : Text} :
    (lineEnd? text).isSome ↔
      text = [] ∨ [.char '\n'] <+: text ∨ [.char '\r', .char '\n'] <+: text := by
  constructor
  · intro ends
    obtain ⟨lineBreak, isBreak⟩ := Option.isSome_iff_exists.mp ends
    have begins := lineEnd?_isPrefix isBreak
    rcases lineEnd?_cases isBreak with ⟨-, isEmpty⟩ | rfl | rfl
    · exact .inl isEmpty
    · exact .inr (.inl begins)
    · exact .inr (.inr begins)
  · rintro (rfl | ⟨rest, rfl⟩ | ⟨rest, rfl⟩) <;> rfl

/-- What ends a line ends it without the text behind it. -/
theorem lineEnd?_self {text lineBreak : Text} (ends : lineEnd? text = some lineBreak) :
    lineEnd? lineBreak = some lineBreak := by
  rcases lineEnd?_cases ends with ⟨rfl, -⟩ | rfl | rfl <;> rfl

/-- What ends a line ends with a line feed, if it is not the end of the text. -/
theorem getLast?_of_lineEnd? {text lineBreak : Text} (ends : lineEnd? text = some lineBreak) :
    lineBreak = [] ∨ lineBreak.getLast? = some (.char '\n') := by
  rcases lineEnd?_cases ends with ⟨rfl, -⟩ | rfl | rfl
  · exact .inl rfl
  · exact .inr rfl
  · exact .inr rfl

/-- A line break in front of a text is no part of its first tag. -/
theorem Tag.find?_append_of_lineEnd? {delimiters : Delimiters} (solid : delimiters.AreSolid)
    {text lineBreak : Text} (isBreak : lineEnd? lineBreak = some lineBreak) :
    find? delimiters (lineBreak ++ text) =
      (find? delimiters text).map (Occurrence.prepend lineBreak) := by
  have feed : ∀ text, find? delimiters (.char '\n' :: text) =
      (find? delimiters text).map (Occurrence.prepend [.char '\n']) := fun text =>
    find?_cons_of_isSpace solid (by decide) (by decide)
  have carriage : ∀ text, find? delimiters (.char '\r' :: text) =
      (find? delimiters text).map (Occurrence.prepend [.char '\r']) := fun text =>
    find?_cons_of_isSpace solid (by decide) (by decide)
  rcases lineEnd?_cases isBreak with ⟨rfl, -⟩ | rfl | rfl
  · cases found : find? delimiters text <;> simp [found, Occurrence.prepend]
  · exact feed text
  · rw [List.cons_append, List.cons_append, List.nil_append, carriage, feed, Option.map_map]
    rfl

namespace Template

/-! ## Sightings -/

/-- A tag in a template, with the whole of the text before it and behind it. -/
structure Sighting where
  before : Text
  source : Text
  tag : Tag
  rest : Text

namespace Sighting

/-- The spaces and tabs directly before the tag. -/
def indentation (sighting : Sighting) : Text :=
  (sighting.before.reverse.takeWhile Text.isBlank).reverse

/-- The text before the indentation. -/
def lead (sighting : Sighting) : Text :=
  (sighting.before.reverse.dropWhile Text.isBlank).reverse

/-- Nothing but the indentation lies between the tag and the line feed before it, or the start of
the template. -/
def beginsLine (sighting : Sighting) : Bool :=
  sighting.lead.getLast?.all (· == .char '\n')

/-- The tag has its line to itself. -/
def isStandalone (sighting : Sighting) : Bool :=
  sighting.beginsLine && (lineEnd? sighting.rest).isSome

/-- The tag disappears together with its line. -/
def vanishes (sighting : Sighting) : Bool :=
  !sighting.tag.isInterpolation && sighting.isStandalone

/-- The line break that disappears with the tag. -/
def lineBreak (sighting : Sighting) : Text :=
  if sighting.vanishes then (lineEnd? sighting.rest).getD [] else []

/-- Where that begins which disappears: the tag, or its indentation. -/
def start (sighting : Sighting) : Nat :=
  if sighting.vanishes then sighting.lead.length else sighting.before.length

/-- Where that ends which disappears. -/
def stop (sighting : Sighting) : Nat :=
  sighting.before.length + sighting.source.length + sighting.lineBreak.length

/-- The line that the tag is on, counted from 1. -/
def line (sighting : Sighting) : Nat :=
  Text.lineBreaks sighting.before + 1

/-- The indentation is taken from the end of the text before the tag. -/
theorem lead_append_indentation (sighting : Sighting) :
    sighting.lead ++ sighting.indentation = sighting.before := by
  rw [lead, indentation, ← List.reverse_append, List.takeWhile_append_dropWhile,
    List.reverse_reverse]

/-- All of the indentation is blank. -/
theorem isBlank_of_mem_indentation (sighting : Sighting) :
    ∀ point ∈ sighting.indentation, Text.isBlank point = true := by
  intro point member
  have blanks := List.all_eq_true.mp
    (List.all_takeWhile (p := Text.isBlank) (l := sighting.before.reverse))
  exact blanks point (List.mem_reverse.mp member)

/-- The indentation is as long as it can be, so the text before it does not end with a blank. -/
theorem lead_eq_and_indentation_eq {sighting : Sighting} {content blank : Text}
    (splits : sighting.before = content ++ blank)
    (blanks : ∀ point ∈ blank, Text.isBlank point = true)
    (notBlank : ∀ point ∈ content.getLast?, Text.isBlank point = false) :
    sighting.lead = content ∧ sighting.indentation = blank := by
  apply Tag.append_blank_inj (sighting.lead_append_indentation.trans splits)
  · exact sighting.isBlank_of_mem_indentation
  · exact blanks
  · intro point isLast
    have isFirst := List.head?_dropWhile_not Text.isBlank sighting.before.reverse
    rw [lead, List.getLast?_reverse] at isLast
    rw [Option.mem_def.mp isLast] at isFirst
    exact isFirst
  · exact notBlank

/-- A tag is standalone if only blanks lie between it and the line feed before it, or the start of
the template, and its line ends directly behind it. -/
theorem isStandalone_iff (sighting : Sighting) :
    sighting.isStandalone ↔
      (∃ lead blank, sighting.before = lead ++ blank ∧
        (∀ point ∈ blank, Text.isBlank point = true) ∧
        (lead = [] ∨ lead.getLast? = some (.char '\n'))) ∧
      (sighting.rest = [] ∨ [.char '\n'] <+: sighting.rest ∨
        [.char '\r', .char '\n'] <+: sighting.rest) := by
  rw [isStandalone, Bool.and_eq_true, lineEnd?_isSome_iff]
  refine and_congr_left fun _ => ?_
  constructor
  · intro begins
    refine ⟨sighting.lead, sighting.indentation, sighting.lead_append_indentation.symm,
      sighting.isBlank_of_mem_indentation, ?_⟩
    unfold beginsLine at begins
    cases isLast : sighting.lead.getLast? with
    | none => exact .inl (List.getLast?_eq_none_iff.mp isLast)
    | some last =>
      rw [isLast] at begins
      exact .inr (congrArg some (eq_of_beq begins))
  · rintro ⟨lead, blank, splits, blanks, begins⟩
    have notBlank : ∀ point ∈ lead.getLast?, Text.isBlank point = false := by
      intro point isLast
      rcases begins with rfl | feed
      · simp at isLast
      · obtain rfl : CodePoint.char '\n' = point := Option.some.inj (feed.symm.trans isLast)
        decide
    rw [beginsLine, (lead_eq_and_indentation_eq splits blanks notBlank).1]
    rcases begins with rfl | feed
    · rfl
    · rw [feed]
      rfl

end Sighting

/-- A visited tag after the text that was passed before. -/
def Visit.sighting (passed : Text) (visit : Visit) : Sighting where
  before := passed ++ visit.occurrence.content ++ visit.occurrence.blank
  source := visit.occurrence.source
  tag := visit.occurrence.tag
  rest := visit.occurrence.rest

end Template

/-! ## Places -/

/-- A place in a template after some text, which does not end with a blank. -/
structure Cursor.Stands (template passed : Text) (cursor : Cursor) : Prop where
  splits : template = passed ++ cursor.rest
  previous : cursor.previous = passed.getLast?
  breaks : cursor.breaks = Text.lineBreaks passed
  notBlank : ∀ point ∈ passed.getLast?, Text.isBlank point = false

/-- At the start no text was passed. -/
theorem Cursor.Stands.start (template : Text) : (Cursor.start template).Stands template [] :=
  ⟨rfl, rfl, rfl, by simp⟩

namespace Template

section Visit

variable {visit : Visit} {delimiters : Delimiters} {template passed : Text}

/-- The last code point before the blanks, wherever it was passed. -/
theorem getLast?_append_content (stands : visit.cursor.Stands template passed) :
    (passed ++ visit.occurrence.content).getLast? =
      visit.occurrence.content.getLast?.or visit.cursor.previous := by
  rw [List.getLast?_append, stands.previous]

/-- The blanks before a tag are its indentation. -/
theorem Visit.IsNext.lead_eq_and_indentation_eq (isNext : visit.IsNext delimiters)
    (solid : delimiters.AreSolid) (stands : visit.cursor.Stands template passed) :
    (visit.sighting passed).lead = passed ++ visit.occurrence.content ∧
      (visit.sighting passed).indentation = visit.occurrence.blank := by
  have isFirst := Tag.isFirstIn_of_find? solid isNext
  apply Sighting.lead_eq_and_indentation_eq rfl isFirst.blank_isBlank
  intro point isLast
  rw [getLast?_append_content stands] at isLast
  cases ends : visit.occurrence.content.getLast? with
  | none =>
    rw [ends, Option.none_or, stands.previous] at isLast
    exact stands.notBlank point isLast
  | some last =>
    rw [ends, Option.some_or] at isLast
    exact isFirst.content_notBlank point (ends ▸ isLast)

/-- Parsing sees whether a line begins before a tag. -/
theorem Visit.IsNext.beginsLine_eq (isNext : visit.IsNext delimiters)
    (solid : delimiters.AreSolid) (stands : visit.cursor.Stands template passed) :
    Placement.beginsLine visit.cursor visit.occurrence.content =
      (visit.sighting passed).beginsLine := by
  unfold Placement.beginsLine Sighting.beginsLine
  rw [(isNext.lead_eq_and_indentation_eq solid stands).1, getLast?_append_content stands]
  split
  · rename_i nothing
    rw [nothing]
    rfl
  · rename_i last isLast
    rw [isLast]
    rfl

/-- Parsing sees whether a tag disappears with its line. -/
theorem Visit.IsNext.lineBreak?_eq (isNext : visit.IsNext delimiters)
    (solid : delimiters.AreSolid) (stands : visit.cursor.Stands template passed) :
    visit.lineBreak? =
      if (visit.sighting passed).vanishes then lineEnd? visit.occurrence.rest else none := by
  unfold Visit.lineBreak? Placement.lineBreak? Sighting.vanishes Sighting.isStandalone
  rw [isNext.beginsLine_eq solid stands]
  change _ = if (!visit.occurrence.tag.isInterpolation &&
    ((visit.sighting passed).beginsLine && (lineEnd? visit.occurrence.rest).isSome)) = true
      then _ else _
  cases visit.occurrence.tag.isInterpolation with
  | true => simp
  | false =>
    cases (visit.sighting passed).beginsLine with
    | false => simp
    | true =>
      cases lineEnd? visit.occurrence.rest <;> simp

/-- A line break disappears with a tag exactly if the tag disappears with its line. -/
theorem Visit.IsNext.isSome_lineBreak?_eq (isNext : visit.IsNext delimiters)
    (solid : delimiters.AreSolid) (stands : visit.cursor.Stands template passed) :
    visit.lineBreak?.isSome = (visit.sighting passed).vanishes := by
  rw [isNext.lineBreak?_eq solid stands]
  cases vanishes : (visit.sighting passed).vanishes with
  | false => rfl
  | true =>
    have isStandalone := (Bool.and_eq_true_iff.mp vanishes).2
    exact (Bool.and_eq_true_iff.mp isStandalone).2

/-- The line break that disappears with a tag is one that ends its line. -/
theorem Visit.IsNext.lineBreak_eq (isNext : visit.IsNext delimiters)
    (solid : delimiters.AreSolid) (stands : visit.cursor.Stands template passed) :
    (visit.sighting passed).lineBreak = visit.lineBreak?.getD [] := by
  rw [isNext.lineBreak?_eq solid stands, Sighting.lineBreak]
  split <;> rfl

/-- What is kept before a tag reaches to where that begins which disappears. -/
theorem Visit.IsNext.start_eq (isNext : visit.IsNext delimiters)
    (solid : delimiters.AreSolid) (stands : visit.cursor.Stands template passed) :
    (visit.sighting passed).start = passed.length + visit.placement.keptSource.length := by
  rw [Sighting.start, visit.keptSource_eq, isNext.isSome_lineBreak?_eq solid stands,
    (isNext.lead_eq_and_indentation_eq solid stands).1]
  split <;> simp [Visit.sighting]

/-- What disappears with a tag reaches to the place behind it. -/
theorem Visit.IsNext.stop_eq (isNext : visit.IsNext delimiters)
    (solid : delimiters.AreSolid) (stands : visit.cursor.Stands template passed) :
    (visit.sighting passed).stop = passed.length + visit.text.length := by
  rw [Sighting.stop, isNext.lineBreak_eq solid stands, visit.text_eq]
  simp [Visit.sighting, Nat.add_assoc]

/-- The indentation of a tag goes to the tag if it disappears. -/
theorem Visit.IsNext.indent_eq (isNext : visit.IsNext delimiters)
    (solid : delimiters.AreSolid) (stands : visit.cursor.Stands template passed) :
    visit.placement.indent =
      if (visit.sighting passed).vanishes then (visit.sighting passed).indentation else [] := by
  rw [visit.indent_eq, isNext.isSome_lineBreak?_eq solid stands,
    (isNext.lead_eq_and_indentation_eq solid stands).2]

/-- What a visit takes up ends with a line feed, or with a tag, which does not end with white
space. -/
theorem Visit.IsNext.exists_getLast?_text (isNext : visit.IsNext delimiters)
    (solid : delimiters.AreSolid) :
    ∃ last, visit.text.getLast? = some last ∧
      if visit.lineBreak?.getD [] = [] then Text.isSpace last = false else last = .char '\n' := by
  obtain ⟨last, isLast, notSpace⟩ :=
    Tag.source_getLast?_of_read? solid (Tag.isFirstIn_of_find? solid isNext).reads
  have ends : (visit.occurrence.content ++ visit.occurrence.blank ++
      visit.occurrence.source).getLast? = some last := by
    rw [List.getLast?_append, isLast, Option.some_or]
  rw [visit.text_eq]
  cases breaks : visit.lineBreak? with
  | none => exact ⟨last, by simpa using ends, notSpace⟩
  | some lineBreak =>
    rcases getLast?_of_lineEnd? (lineBreak?_eq_some_iff.mp breaks).2.2 with rfl | feed
    · exact ⟨last, by simpa using ends, notSpace⟩
    · refine ⟨.char '\n', by simp [List.getLast?_append, feed], ?_⟩
      have nonempty : lineBreak ≠ [] := by
        rintro rfl
        simp at feed
      simp [nonempty]

/-- The place behind a tag stands in the template. -/
theorem Visit.IsNext.stands (isNext : visit.IsNext delimiters) (solid : delimiters.AreSolid)
    (stands : visit.cursor.Stands template passed) :
    visit.next.Stands template (passed ++ visit.text) := by
  obtain ⟨last, isLast, kind⟩ := isNext.exists_getLast?_text solid
  refine ⟨?_, ?_, ?_, ?_⟩
  · rw [stands.splits, isNext.splits, List.append_assoc]
  · rw [visit.next_previous, List.getLast?_append, stands.previous]
  · rw [visit.next_breaks, Text.lineBreaks_append, stands.breaks]
  · intro point isThere
    rw [List.getLast?_append, isLast, Option.some_or] at isThere
    obtain rfl := Option.some.inj isThere
    split at kind
    · cases blank : Text.isBlank last with
      | false => rfl
      | true => exact (Text.isSpace_of_isBlank blank).symm.trans kind
    · rw [kind]
      decide

end Visit

/-- The place that a passage leads to stands in the template. -/
theorem Passage.stands {delimiters active : Delimiters} {cursor last : Cursor}
    {visits : List Visit} {pairs : List (Visit × Visit)} {nodes : List Node}
    {template passed : Text}
    (passage : Passage delimiters cursor visits pairs nodes active last)
    (solid : delimiters.AreSolid) (stands : cursor.Stands template passed) :
    last.Stands template (passed ++ Visit.textOf visits) := by
  induction passage generalizing passed with
  | stay => simpa using stands
  | emit isNext _ _ inductionHypothesis =>
    simpa using inductionHypothesis solid (isNext.stands solid stands)
  | change isNext asked _ inductionHypothesis =>
    simpa using inductionHypothesis (areSolid_of_request asked) (isNext.stands solid stands)
  | block isNext _ bodyPassage closingIsNext _ _ inside beyond =>
    have atClosing := inside solid (isNext.stands solid stands)
    have closed := closingIsNext.stands (bodyPassage.areSolid solid) atClosing
    simpa using beyond solid closed

end Template

end Stencil
