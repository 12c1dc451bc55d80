import Stencil.Text.Basic

/-!
# The lines of a text

A line is ended by a line feed, or by a carriage return in front of one. A carriage return that
stands alone ends no line: it is part of what stands on the line. Behind the last line break there
is one more line, which may be empty and which nothing ends, so that a text has a line even if it
is empty.

`Text.lines` takes a text apart, and `Text.areLines_iff` says that it does so as `Text.AreLines`
describes: line by line, in one way only. What holds of the text of each line therefore holds of
the whole text by induction on its lines.
-/

namespace Stencil.Text

/-- A line: what stands on it, and the line break that ends it. -/
structure Line where
  content : Text
  lineBreak : Text
  deriving DecidableEq, Repr

namespace Line

/-- A line with its line break. -/
def written (line : Line) : Text :=
  line.content ++ line.lineBreak

/-- A line with one code point more at its front. -/
def behind (point : CodePoint) (line : Line) : Line :=
  { line with content := point :: line.content }

/-- A line that a line break ends. If this is a line feed alone, then no carriage return stands in
front of it. -/
structure IsEnded (line : Line) : Prop where
  onOneLine : .char '\n' ∉ line.content
  ends : line.lineBreak = .of "\r\n" ∨
    line.lineBreak = .of "\n" ∧ line.content.getLast? ≠ some (.char '\r')

/-- Written, a line that is ended has one line feed, which is at its end. -/
theorem IsEnded.written_eq {line : Line} (isEnded : line.IsEnded) :
    ∃ before, line.written = before ++ [.char '\n'] ∧ .char '\n' ∉ before := by
  rcases isEnded.ends with isBreak | ⟨isBreak, -⟩
  · exact ⟨line.content ++ [.char '\r'], by simp [written, isBreak, of], by
      simp [isEnded.onOneLine]⟩
  · exact ⟨line.content, by simp [written, isBreak, of], isEnded.onOneLine⟩

end Line

/-- The lines of a text. -/
def lines : Text → List Line
  | [] => [⟨[], []⟩]
  | .char '\n' :: rest => ⟨[], .of "\n"⟩ :: lines rest
  | .char '\r' :: .char '\n' :: rest => ⟨[], .of "\r\n"⟩ :: lines rest
  | point :: rest => (lines rest).modifyHead (Line.behind point)

/-- What the lines of a text are: a line that a line break ends, and the lines of the rest, or the
one line that is left. -/
inductive AreLines : Text → List Line → Prop where
  | last {content : Text} (onOneLine : .char '\n' ∉ content) : AreLines content [⟨content, []⟩]
  | ended {line : Line} {rest : Text} {others : List Line} (isEnded : line.IsEnded)
      (further : AreLines rest others) : AreLines (line.written ++ rest) (line :: others)

/-- A text that is empty or ends with a line feed, so that a line begins behind it. -/
def EndsLine (text : Text) : Prop :=
  ∀ last ∈ text.getLast?, last = .char '\n'

/-- Whether a line begins behind a text is seen from its last code point. -/
theorem endsLine_iff {text : Text} :
    EndsLine text ↔ text.getLast?.all (· == .char '\n') = true := by
  cases isLast : text.getLast? <;> simp [EndsLine, isLast]

variable {text rest : Text} {all others : List Line}

/-- A code point that is no part of a line break stands at the front of the first line. -/
theorem lines_cons {point : CodePoint} (notFeed : point ≠ .char '\n')
    (notBreak : point = .char '\r' → rest.head? ≠ some (.char '\n')) :
    lines (point :: rest) = (lines rest).modifyHead (Line.behind point) := by
  rw [lines]
  · exact notFeed
  · rintro further isReturn rfl
    exact notBreak isReturn rfl

/-- What stands in front of a text without a line feed belongs to the first line. -/
theorem lines_append {content : Text} (onOneLine : .char '\n' ∉ content)
    (notBreak : content.getLast? = some (.char '\r') → rest.head? ≠ some (.char '\n')) :
    lines (content ++ rest) =
      (lines rest).modifyHead fun line => { line with content := content ++ line.content } := by
  induction content with
  | nil => exact (congrFun List.modifyHead_id (lines rest)).symm
  | cons point content inductionHypothesis =>
    obtain ⟨notFeed, further⟩ := not_or.mp (mt List.mem_cons.mpr onOneLine)
    have continues := inductionHypothesis further fun isLast => notBreak (by
      rw [List.getLast?_cons, isLast]
      rfl)
    rw [List.cons_append, lines_cons (Ne.symm notFeed), continues, List.modifyHead_modifyHead]
    · rfl
    · rintro rfl
      cases content with
      | nil => exact notBreak rfl
      | cons second content =>
        rintro isFeed
        exact further (Option.some.inj isFeed ▸ List.mem_cons_self)

/-- A line that is ended is the first one of a text that it stands at the front of. -/
theorem Line.IsEnded.lines_append {line : Line} (isEnded : line.IsEnded) (rest : Text) :
    lines (line.written ++ rest) = line :: lines rest := by
  obtain ⟨content, lineBreak⟩ := line
  obtain ⟨onOneLine, ends⟩ := isEnded
  rw [written, List.append_assoc]
  rcases ends with rfl | ⟨rfl, notReturn⟩
  · rw [Text.lines_append onOneLine fun _ => by simp [of]]
    simp [of, lines]
  · rw [Text.lines_append onOneLine fun isReturn => absurd isReturn notReturn]
    simp [of, lines]

/-- A text without a line feed is one line. -/
theorem lines_of_not_mem (onOneLine : .char '\n' ∉ text) : lines text = [⟨text, []⟩] := by
  have oneLine := @lines_append [] text onOneLine fun _ => by simp
  simpa [lines] using oneLine

/-- With a code point more at the front that makes no line break, lines are lines. -/
theorem AreLines.behind {point : CodePoint} (areLines : AreLines rest all)
    (notFeed : point ≠ .char '\n')
    (notBreak : point = .char '\r' → rest.head? ≠ some (.char '\n')) :
    AreLines (point :: rest) (all.modifyHead (Line.behind point)) := by
  have onOneLine : ∀ {content : Text}, .char '\n' ∉ content → .char '\n' ∉ point :: content :=
    fun absent => by simp [absent, Ne.symm notFeed]
  cases areLines with
  | last absent => exact .last (onOneLine absent)
  | @ended line rest others isEnded further =>
    refine @AreLines.ended (line.behind point) rest others ⟨onOneLine isEnded.onOneLine, ?_⟩ further
    refine isEnded.ends.imp_right fun ⟨isFeed, notReturn⟩ => ⟨isFeed, ?_⟩
    rw [Line.behind, List.getLast?_cons]
    cases isLast : line.content.getLast? with
    | some last => simpa [isLast] using notReturn
    | none =>
      rintro isReturn
      refine notBreak (Option.some.inj isReturn) ?_
      simp [Line.written, List.getLast?_eq_none_iff.mp isLast, isFeed, of]

/-- A text is taken apart into its lines. -/
theorem areLines_lines (text : Text) : AreLines text (lines text) := by
  fun_induction lines text with
  | case1 => exact .last (by simp)
  | case2 rest inductionHypothesis =>
    exact @AreLines.ended ⟨[], .of "\n"⟩ _ _ ⟨by simp, .inr ⟨rfl, by simp⟩⟩ inductionHypothesis
  | case3 rest inductionHypothesis =>
    exact @AreLines.ended ⟨[], .of "\r\n"⟩ _ _ ⟨by simp, .inl rfl⟩ inductionHypothesis
  | case4 point rest notFeed notBreak inductionHypothesis =>
    refine inductionHypothesis.behind (fun isFeed => notFeed isFeed) fun isReturn begins => ?_
    obtain ⟨further, rfl⟩ := List.head?_eq_some_iff.mp begins
    exact notBreak further isReturn rfl

/-- The lines of a text are what they are in one way only. -/
theorem areLines_iff : AreLines text all ↔ lines text = all := by
  constructor
  · intro areLines
    induction areLines with
    | last onOneLine => exact lines_of_not_mem onOneLine
    | ended isEnded _ inductionHypothesis =>
      rw [isEnded.lines_append, inductionHypothesis]
  · rintro rfl
    exact areLines_lines text

/-- Together the lines of a text are the text. -/
@[simp] theorem flatMap_written_lines (text : Text) : (lines text).flatMap Line.written = text := by
  have areLines := areLines_lines text
  generalize lines text = all at areLines
  induction areLines with
  | last => simp [Line.written]
  | ended _ _ inductionHypothesis => rw [List.flatMap_cons, inductionHypothesis]

/-- Every text has a line. -/
theorem lines_ne_nil (text : Text) : lines text ≠ [] := by
  intro isNil
  cases areLines_iff.mpr isNil

/-- Lines that are ended are the first ones of a text that they stand at the front of. -/
theorem lines_flatMap_append {before : List Line} (areEnded : ∀ line ∈ before, line.IsEnded)
    (rest : Text) : lines (before.flatMap Line.written ++ rest) = before ++ lines rest := by
  induction before with
  | nil => rfl
  | cons line before inductionHypothesis =>
    obtain ⟨isEnded, othersEnded⟩ := List.forall_mem_cons.mp areEnded
    rw [List.flatMap_cons, List.append_assoc, isEnded.lines_append,
      inductionHypothesis othersEnded, List.cons_append]

/-- Every line in front of another one is ended, and what is behind it has the lines that follow. -/
theorem exists_of_lines_eq_append {before : List Line} (notLast : all ≠ [])
    (areLines : lines text = before ++ all) :
    (∀ line ∈ before, line.IsEnded) ∧
      ∃ rest, text = before.flatMap Line.written ++ rest ∧ lines rest = all := by
  induction before generalizing text with
  | nil => exact ⟨by simp, text, rfl, areLines⟩
  | cons line before inductionHypothesis =>
    generalize isFurther : before ++ all = others at areLines
    rw [List.cons_append, isFurther] at areLines
    cases areLines_iff.mpr areLines with
    | last => exact absurd (List.append_eq_nil_iff.mp isFurther).2 notLast
    | ended isEnded further =>
      obtain ⟨othersEnded, rest, isText, same⟩ :=
        inductionHypothesis ((areLines_iff.mp further).trans isFurther.symm)
      exact ⟨List.forall_mem_cons.mpr ⟨isEnded, othersEnded⟩, rest, by simp [isText], same⟩

/-- A text that is empty or ends with a line feed consists of lines that are ended. -/
theorem EndsLine.exists_lines (endsLine : EndsLine text) :
    ∃ before : List Line, (∀ line ∈ before, line.IsEnded) ∧ before.flatMap Line.written = text := by
  have areLines := areLines_lines text
  generalize lines text = all at areLines
  induction areLines with
  | @last content onOneLine =>
    obtain rfl : content = [] := List.getLast?_eq_none_iff.mp
      (Option.eq_none_iff_forall_not_mem.mpr fun last isLast =>
        onOneLine (endsLine last isLast ▸ List.mem_of_getLast? isLast))
    exact ⟨[], by simp, rfl⟩
  | @ended line rest others isEnded further inductionHypothesis =>
    obtain ⟨before, areEnded, isText⟩ := inductionHypothesis fun last isLast =>
      endsLine last (by simp [List.getLast?_append, Option.mem_def.mp isLast])
    exact ⟨line :: before, List.forall_mem_cons.mpr ⟨isEnded, areEnded⟩, by
      rw [List.flatMap_cons, isText]⟩

/-- Behind lines that are ended a line begins. -/
theorem endsLine_flatMap {before : List Line} (areEnded : ∀ line ∈ before, line.IsEnded) :
    EndsLine (before.flatMap Line.written) := by
  induction before with
  | nil => simp [EndsLine]
  | cons line before inductionHypothesis =>
    obtain ⟨isEnded, othersEnded⟩ := List.forall_mem_cons.mp areEnded
    obtain ⟨front, isWritten, -⟩ := isEnded.written_eq
    intro last isLast
    rw [List.flatMap_cons, isWritten, List.getLast?_append] at isLast
    cases others : (before.flatMap Line.written).getLast? with
    | none => simpa [others, eq_comm] using isLast
    | some further =>
      rw [others] at isLast
      exact inductionHypothesis othersEnded last (others ▸ isLast)

end Stencil.Text
