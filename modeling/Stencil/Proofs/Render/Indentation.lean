import Stencil.Proofs.Computation
import Stencil.Proofs.Render.Outcome
import Stencil.Proofs.Template.InclusionLine
import Stencil.Proofs.Text.Line
import Stencil.Render.Evaluate

/-!
# Indented inclusions

The text of an inclusion that is indented is indented line by line. Which lines are empty depends on
what a line break is. For the lines that a tag can have to itself, it is a line feed with or without
a carriage return in front of it (`lineEnd?`). For indenting, it is the line feed alone, so that a
line ended by both has something on it. Only a line that is `Text.Line.isBare` is left as it is
(`indentLines_eq`). These are the lines that are empty, exactly if no empty line has a carriage
return in its line break (`Text.indentedBut_isBare_eq_iff`).
-/

namespace Stencil

namespace Text

/-- A line with nothing on it. -/
def Line.isEmpty (line : Line) : Bool :=
  line.content.isEmpty

/-- A line with nothing on it and no carriage return in its line break. -/
def Line.isBare (line : Line) : Bool :=
  line.content.isEmpty && line.lineBreak != .of "\r\n"

/-- A line with an indent in front of it, unless it is left out. -/
def Line.indentedBut (line : Line) (leftOut : Line → Bool) (indent : Text) : Text :=
  if leftOut line then line.written else indent ++ line.written

/-- A text with an indent at the start of every line but those that are left out. -/
def indentedBut (text : Text) (leftOut : Line → Bool) (indent : Text) : Text :=
  (lines text).flatMap (·.indentedBut leftOut indent)

/-- With nothing for an indent a text stays as it is. -/
@[simp] theorem indentedBut_nil (text : Text) (leftOut : Line → Bool) :
    text.indentedBut leftOut [] = text := by
  have unchanged : (fun line : Line => line.indentedBut leftOut []) = Line.written := by
    funext line
    simp [Line.indentedBut]
  rw [indentedBut, unchanged, flatMap_written_lines]

/-- A line that is ended is bare if it begins with the line feed that ends it. -/
theorem Line.IsEnded.isBare_eq {line : Line} (isEnded : line.IsEnded) :
    line.isBare = (line.written.head? == some (.char '\n')) := by
  obtain ⟨content, lineBreak⟩ := line
  obtain ⟨onOneLine, ends⟩ := isEnded
  cases content with
  | nil => rcases ends with rfl | ⟨rfl, -⟩ <;> rfl
  | cons first content =>
    simp only [List.mem_cons, not_or] at onOneLine
    simp [isBare, written, Ne.symm onOneLine.1]

/-- An empty line is bare unless there is a carriage return in its line break. -/
theorem Line.isBare_eq_isEmpty {line : Line} (isOther : line ≠ ⟨[], .of "\r\n"⟩) :
    line.isBare = line.isEmpty := by
  obtain ⟨content, lineBreak⟩ := line
  cases content with
  | nil => simpa [isBare, isEmpty] using isOther
  | cons first content => rfl

/-- Each empty line with a carriage return in its line break is indented although it is empty. -/
theorem length_indentedBut_isBare (text indent : Text) :
    (text.indentedBut Line.isBare indent).length =
      (text.indentedBut Line.isEmpty indent).length +
        (lines text).count ⟨[], .of "\r\n"⟩ * indent.length := by
  unfold indentedBut
  induction lines text with
  | nil => simp
  | cons line others inductionHypothesis =>
    rw [List.flatMap_cons, List.flatMap_cons, List.length_append, List.length_append,
      inductionHypothesis]
    by_cases isOther : line = ⟨[], .of "\r\n"⟩
    · have indented : line.indentedBut Line.isBare indent = indent ++ line.written := by
        subst isOther
        rfl
      have unchanged : line.indentedBut Line.isEmpty indent = line.written := by
        subst isOther
        rfl
      rw [indented, unchanged, List.length_append, isOther, List.count_cons_self, Nat.add_one_mul]
      omega
    · simp only [List.count_cons_of_ne isOther, Line.indentedBut, Line.isBare_eq_isEmpty isOther]
      omega

/-- Where no empty line has a carriage return in its line break, the lines that are bare are those
that are empty. -/
theorem indentedBut_isBare_eq {text : Text} (absent : ⟨[], .of "\r\n"⟩ ∉ lines text)
    (indent : Text) :
    text.indentedBut Line.isBare indent = text.indentedBut Line.isEmpty indent := by
  refine List.flatMap_congr fun line inside => ?_
  have isOther : line ≠ ⟨[], .of "\r\n"⟩ := fun isBreak => absent (isBreak ▸ inside)
  simp only [Line.indentedBut, Line.isBare_eq_isEmpty isOther]

/-- Indenting all lines that are not bare is indenting all that are not empty, exactly if no empty
line has a carriage return in its line break. -/
theorem indentedBut_isBare_eq_iff {indent : Text} (present : indent ≠ []) (text : Text) :
    text.indentedBut Line.isBare indent = text.indentedBut Line.isEmpty indent ↔
      ⟨[], .of "\r\n"⟩ ∉ lines text := by
  constructor
  · intro same
    have lengths := length_indentedBut_isBare text indent
    rw [same, Nat.left_eq_add, Nat.mul_eq_zero, List.count_eq_zero] at lengths
    exact lengths.resolve_right (by simpa using present)
  · exact fun absent => indentedBut_isBare_eq absent indent

end Text

/-! ## Indenting -/

section Indenting

variable {indent : Text}

/-- On its way through a line, indenting changes nothing. -/
theorem indentLines_append {content : Text} (onOneLine : .char '\n' ∉ content) (rest : Text) :
    indentLines indent false (content ++ rest) = content ++ indentLines indent false rest := by
  induction content with
  | nil => rfl
  | cons point content inductionHypothesis =>
    obtain ⟨notFeed, further⟩ := not_or.mp (mt List.mem_cons.mpr onOneLine)
    have continues : (point == .char '\n') = false := beq_false_of_ne (Ne.symm notFeed)
    simp [indentLines, continues, inductionHypothesis further]

/-- Behind a line that is ended, indenting begins again. -/
theorem indentLines_written {line : Text.Line} (isEnded : line.IsEnded) (rest : Text) :
    indentLines indent false (line.written ++ rest) =
      line.written ++ indentLines indent true rest := by
  obtain ⟨before, isWritten, onOneLine⟩ := isEnded.written_eq
  rw [isWritten, List.append_assoc, indentLines_append onOneLine, List.append_assoc]
  rfl

/-- At the start of a line, an indent is put in front of anything but a line feed. -/
theorem indentLines_cons (point : CodePoint) (rest : Text) :
    indentLines indent true (point :: rest) =
      if point = .char '\n' then indentLines indent false (point :: rest)
      else indent ++ indentLines indent false (point :: rest) := by
  by_cases isFeed : point = .char '\n' <;> simp [indentLines, isFeed]

/-- Lines are indented unless they are bare. -/
theorem indentLines_eq (indent text : Text) :
    indentLines indent true text = text.indentedBut Text.Line.isBare indent := by
  have areLines := Text.areLines_lines text
  unfold Text.indentedBut
  generalize text.lines = all at areLines
  induction areLines with
  | @last content onOneLine =>
    have unchanged := @indentLines_append indent content onOneLine []
    rw [List.append_nil, indentLines, List.append_nil] at unchanged
    cases content with
    | nil => rfl
    | cons first content =>
      have notFeed : first ≠ .char '\n' := by
        rintro rfl
        exact onOneLine List.mem_cons_self
      rw [indentLines_cons, if_neg notFeed, unchanged]
      simp [Text.Line.indentedBut, Text.Line.isBare, Text.Line.written]
  | @ended line rest others isEnded further inductionHypothesis =>
    have goesOn := @indentLines_written indent line isEnded rest
    rw [List.flatMap_cons, ← inductionHypothesis, Text.Line.indentedBut, isEnded.isBare_eq]
    cases isWritten : line.written with
    | nil =>
      obtain ⟨before, ends, -⟩ := isEnded.written_eq
      simp [isWritten] at ends
    | cons first written =>
      rw [isWritten] at goesOn
      rw [List.cons_append, indentLines_cons, ← List.cons_append, goesOn]
      by_cases isFeed : first = .char '\n' <;> simp [isFeed]

end Indenting

namespace Render

/-- The text of an inclusion is indented where its lines are not bare, and rendered. -/
theorem inclusion_of_partialText {deeper : Deeper} {partials : Partials} {name text : Text}
    {session between : Session}
    (resolves : partialText deeper name partials session = (.ok text, between)) (indent : Text) :
    inclusion deeper partials name indent session =
      expand deeper partials .standard (text.indentedBut Text.Line.isBare indent)
        { between with log := .partialResolved name text.length :: between.log } := by
  have included : (if indent = [] then text else indentLines indent true text) =
      text.indentedBut Text.Line.isBare indent := by
    split
    · rename_i absent
      rw [absent, Text.indentedBut_nil]
    · exact indentLines_eq indent text
  unfold inclusion
  rw [bind_of_ok resolves, bind_of_ok (rfl : note _ between = (.ok (), _)), included]

/-- The text of an inclusion is indented where its lines are not bare before it is parsed. This is
indenting the lines that are not empty, exactly if no empty line has a carriage return in its line
break. -/
theorem inclusion_indented (deeper : Deeper) (partials : Partials) (name : Text) {indent : Text}
    (present : indent ≠ []) {session between : Session} {text : Text}
    (resolves : partialText deeper name partials session = (.ok text, between)) :
    ∃ included,
      inclusion deeper partials name indent session =
        expand deeper partials .standard included
          { between with log := .partialResolved name text.length :: between.log } ∧
      included = text.indentedBut Text.Line.isBare indent ∧
      (included = text.indentedBut Text.Line.isEmpty indent ↔ ⟨[], .of "\r\n"⟩ ∉ text.lines) :=
  ⟨_, inclusion_of_partialText resolves indent, rfl, Text.indentedBut_isBare_eq_iff present text⟩

/-- Three lines, of which the second one is empty. All are ended by a carriage return and a line
feed. -/
def blankLineText : Text :=
  .of "a\r\n\r\nb\r\n"

/-- A mapping with these lines under a name. -/
def blankLineHolder : Value :=
  .frozen [(.text (.of "p"), .text blankLineText)]

/-- A session at its start, with an empty cache. -/
def newSession : Session :=
  .start (.empty .unbounded) ⟨[]⟩

/-- The mapping has the lines. -/
theorem partialText_blankLineHolder :
    partialText (generate 1) (.of "p") (.held blankLineHolder) newSession =
      (.ok blankLineText, newSession) :=
  rfl

/-- The lines are included with an indentation. -/
theorem inclusion_indented_blankLineText :
    Text.of "  " ≠ [] ∧ ∃ included,
      inclusion (generate 1) (.held blankLineHolder) (.of "p") (.of "  ") newSession =
        expand (generate 1) (.held blankLineHolder) .standard included
          { newSession with log := [.partialResolved (.of "p") 8] } ∧
      included = blankLineText.indentedBut Text.Line.isBare (.of "  ") ∧
      (included = blankLineText.indentedBut Text.Line.isEmpty (.of "  ") ↔
        ⟨[], .of "\r\n"⟩ ∉ blankLineText.lines) :=
  ⟨by decide, inclusion_indented (generate 1) (.held blankLineHolder) (.of "p") (by decide)
    partialText_blankLineHolder⟩

/-- Indented, the empty line is not empty any more. -/
theorem inclusion_blankLineText_ne :
    (inclusion (generate 1) (.held blankLineHolder) (.of "p") (.of "  ") newSession).1 =
        .ok (.of "  a\r\n  \r\n  b\r\n") ∧
      blankLineText.indentedBut Text.Line.isEmpty (.of "  ") = .of "  a\r\n\r\n  b\r\n" ∧
      Text.of "  a\r\n  \r\n  b\r\n" ≠ .of "  a\r\n\r\n  b\r\n" := by
  refine ⟨?_, by decide, by decide⟩
  have nodes : Template.parse .standard (.of "  a\r\n  \r\n  b\r\n") =
      ([], .ok [.literal (.of "  a\r\n  \r\n  b\r\n")]) :=
    Template.parse_of_not_holds (by decide) (by decide)
  have included : blankLineText.indentedBut Text.Line.isBare (.of "  ") =
      .of "  a\r\n  \r\n  b\r\n" := by
    decide
  rw [inclusion_of_partialText partialText_blankLineHolder, included]
  unfold expand
  rw [bind_of_ok (parse_of_absent (Cache.Contains.empty none).find?_eq_none nodes)]
  rfl

end Render

end Stencil
