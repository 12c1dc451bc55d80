import Stencil.FrontMatter
import Stencil.Proofs.Text.Line

/-!
# Where front matter stands

A document with front matter is lines of white space, a marker line, the lines of the block, the
next marker line, and the lines of the template: a `FrontMatter.Division` of the document. What
splits a document finds these lines (`FrontMatter.split?_eq_some_iff`), and it finds them exactly
if white space, a marker line and any further one follow each other
(`FrontMatter.isSome_split?_iff`). So no line that only looks like a marker line moves one of the
two ends of the block, and everything between and behind the two lines is kept as it is.
-/

namespace Stencil.FrontMatter

open Text (Line)

/-! ## Marker lines -/

/-- A marker line: three hyphens, and nothing but blanks behind them. -/
def IsMarker (line : Line) : Prop :=
  ∃ blanks, line.content = .of "---" ++ blanks ∧ ∀ point ∈ blanks, Text.isBlank point = true

/-- What stands behind the hyphens says whether a line is a marker line. -/
theorem isMarker_iff {line : Line} :
    IsMarker line ↔ (Text.after? (.of "---") line.content).any (·.all Text.isBlank) = true := by
  simp [IsMarker, Option.any_eq_true, Text.after?_eq_some_iff]

instance (line : Line) : Decidable (IsMarker line) :=
  decidable_of_iff _ isMarker_iff.symm

/-- A marker, and the blanks behind it, have no part of a line break in them. -/
theorem ne_of_mem_marker {blanks : Text} (areBlank : ∀ point ∈ blanks, Text.isBlank point = true)
    {point : CodePoint} (inside : point ∈ Text.of "---" ++ blanks) :
    point ≠ .char '\n' ∧ point ≠ .char '\r' := by
  rcases List.mem_append.mp inside with isHyphen | isBlank
  · have notBreak : ∀ point ∈ Text.of "---", point ≠ .char '\n' ∧ point ≠ .char '\r' := by
      decide
    exact notBreak point isHyphen
  · constructor <;> rintro rfl <;> exact absurd (areBlank _ isBlank) (by decide)

/-- What a text has behind a marker and the blanks that follow it. -/
theorem afterMarker?_eq_some_iff {text rest : Text} :
    afterMarker? text = some rest ↔
      ∃ blanks, text = .of "---" ++ (blanks ++ rest) ∧
        (∀ point ∈ blanks, Text.isBlank point = true) ∧
        ∀ first ∈ rest.head?, Text.isBlank first = false := by
  rw [afterMarker?, Option.map_eq_some_iff]
  constructor
  · rintro ⟨behind, isBehind, rfl⟩
    refine ⟨behind.takeWhile Text.isBlank, ?_, List.all_eq_true.mp List.all_takeWhile, ?_⟩
    · rw [List.takeWhile_append_dropWhile]
      exact Text.after?_eq_some_iff.mp isBehind
    · intro first isFirst
      have notBlank := List.head?_dropWhile_not Text.isBlank behind
      rw [Option.mem_def.mp isFirst] at notBlank
      exact notBlank
  · rintro ⟨blanks, isText, areBlank, ends⟩
    refine ⟨blanks ++ rest, Text.after?_eq_some_iff.mpr isText, ?_⟩
    rw [List.dropWhile_append_of_pos areBlank]
    cases rest with
    | nil => rfl
    | cons first rest => exact List.dropWhile_cons_of_neg (by simp [ends first rfl])

/-- What a text has behind a line break. -/
theorem afterBreak?_eq_some_iff {text rest : Text} :
    afterBreak? text = some rest ↔ text = .of "\n" ++ rest ∨ text = .of "\r\n" ++ rest := by
  unfold afterBreak?
  split
  · simp [Text.of]
  · simp [Text.of]
  · rename_i notFeed notBreak
    refine iff_of_false (by simp) ?_
    rintro (isFeed | isBreak)
    · exact notFeed rest isFeed
    · exact notBreak rest isBreak

/-- A marker line that is ended opens a block. -/
theorem opening?_written {line : Line} (isMarker : IsMarker line) (isEnded : line.IsEnded)
    (rest : Text) : opening? (line.written ++ rest) = some rest := by
  obtain ⟨blanks, isContent, areBlank⟩ := isMarker
  have ends : line.lineBreak = .of "\n" ∨ line.lineBreak = .of "\r\n" :=
    (isEnded.ends.imp_right And.left).symm
  refine Option.bind_eq_some_iff.mpr ⟨line.lineBreak ++ rest, ?_, ?_⟩
  · refine afterMarker?_eq_some_iff.mpr ⟨blanks, by simp [Line.written, isContent], areBlank, ?_⟩
    rcases ends with isBreak | isBreak <;> simp [isBreak, Text.of] <;> decide
  · exact afterBreak?_eq_some_iff.mpr (ends.imp (by rw [·]) (by rw [·]))

/-- A text opens a block if its first line is a marker line and not its last line. -/
theorem opening?_eq_some_iff {text rest : Text} :
    opening? text = some rest ↔ ∃ line, IsMarker line ∧ text.lines = line :: rest.lines := by
  constructor
  · intro found
    obtain ⟨behind, isBehind, ends⟩ := Option.bind_eq_some_iff.mp found
    obtain ⟨blanks, rfl, areBlank, -⟩ := afterMarker?_eq_some_iff.mp isBehind
    have isLine : ∀ lineBreak, lineBreak = .of "\n" ∨ lineBreak = .of "\r\n" →
        behind = lineBreak ++ rest → ∃ line, IsMarker line ∧
          (Text.of "---" ++ (blanks ++ behind)).lines = line :: rest.lines := by
      rintro lineBreak isBreak rfl
      have isEnded : Line.IsEnded ⟨.of "---" ++ blanks, lineBreak⟩ :=
        ⟨fun inside => (ne_of_mem_marker areBlank inside).1 rfl,
          isBreak.symm.imp_right fun isFeed => ⟨isFeed, fun isLast =>
            (ne_of_mem_marker areBlank (List.mem_of_getLast? isLast)).2 rfl⟩⟩
      refine ⟨⟨.of "---" ++ blanks, lineBreak⟩, ⟨blanks, rfl, areBlank⟩, ?_⟩
      rw [← isEnded.lines_append]
      simp [Line.written]
    rcases afterBreak?_eq_some_iff.mp ends with isFeed | isBreak
    · exact isLine _ (.inl rfl) isFeed
    · exact isLine _ (.inr rfl) isBreak
  · rintro ⟨line, isMarker, areLines⟩
    have isText := congrArg (List.flatMap Line.written) areLines
    rw [List.flatMap_cons, Text.flatMap_written_lines, Text.flatMap_written_lines] at isText
    obtain ⟨isEnded, -⟩ :=
      @Text.exists_of_lines_eq_append _ _ [line] (Text.lines_ne_nil rest) areLines
    rw [isText]
    exact opening?_written isMarker (isEnded line List.mem_cons_self) rest

/-- What opens a block can close one. -/
theorem closing?_of_opening? {text rest : Text} (opens : opening? text = some rest) :
    closing? text = some rest := by
  obtain ⟨behind, isBehind, ends⟩ := Option.bind_eq_some_iff.mp opens
  rw [closing?, isBehind]
  cases behind with
  | nil => cases ends
  | cons first behind => exact ends

/-- A text closes a block if its first line is a marker line. -/
theorem closing?_eq_some_iff {text rest : Text} :
    closing? text = some rest ↔
      ∃ line behind, text.lines = line :: behind ∧ IsMarker line ∧
        behind.flatMap Line.written = rest := by
  constructor
  · intro found
    cases isBehind : afterMarker? text with
    | none => simp [closing?, isBehind] at found
    | some behind =>
      cases behind with
      | nil =>
        obtain rfl : [] = rest := by simpa [closing?, isBehind] using found
        obtain ⟨blanks, rfl, areBlank, -⟩ := afterMarker?_eq_some_iff.mp isBehind
        rw [List.append_nil]
        exact ⟨⟨_, []⟩, [],
          Text.lines_of_not_mem fun inside => (ne_of_mem_marker areBlank inside).1 rfl,
          ⟨blanks, rfl, areBlank⟩, rfl⟩
      | cons first behind =>
        have opens : opening? text = some rest := by
          simpa [closing?, opening?, isBehind] using found
        obtain ⟨line, isMarker, areLines⟩ := opening?_eq_some_iff.mp opens
        exact ⟨line, rest.lines, areLines, isMarker, rest.flatMap_written_lines⟩
  · rintro ⟨line, behind, areLines, isMarker, rfl⟩
    cases Text.areLines_iff.mpr areLines with
    | last =>
      obtain ⟨blanks, rfl, areBlank⟩ := isMarker
      have ends : afterMarker? (Text.of "---" ++ blanks) = some [] :=
        afterMarker?_eq_some_iff.mpr ⟨blanks, by simp, areBlank, by simp⟩
      simp [closing?, ends]
    | @ended _ rest _ isEnded further =>
      rw [← Text.areLines_iff.mp further, Text.flatMap_written_lines]
      exact closing?_of_opening? (opening?_written isMarker isEnded rest)

/-! ## The block -/

/-- On its way through a line, the search for the next marker line finds nothing. -/
theorem upToClosing?_append {content : Text} (onOneLine : .char '\n' ∉ content) (rest : Text) :
    upToClosing? false (content ++ rest) =
      (upToClosing? false rest).map fun (block, template) => (content ++ block, template) := by
  induction content with
  | nil => simp
  | cons point content inductionHypothesis =>
    obtain ⟨notFeed, further⟩ := not_or.mp (mt List.mem_cons.mpr onOneLine)
    have continues : (point == .char '\n') = false := beq_false_of_ne (Ne.symm notFeed)
    rw [List.cons_append, upToClosing?]
    simp [continues, inductionHypothesis further, Function.comp_def]

/-- Behind a line that is ended, the search for the next marker line begins again. -/
theorem upToClosing?_written {line : Line} (isEnded : line.IsEnded) (rest : Text) :
    upToClosing? false (line.written ++ rest) =
      (upToClosing? true rest).map fun (block, template) => (line.written ++ block, template) := by
  obtain ⟨before, isWritten, onOneLine⟩ := isEnded.written_eq
  rw [isWritten, List.append_assoc, upToClosing?_append onOneLine]
  have next : upToClosing? false ([.char '\n'] ++ rest) = (upToClosing? true rest).map
      fun (block, template) => (.char '\n' :: block, template) := by
    rw [List.singleton_append, upToClosing?]
    rfl
  rw [next, Option.map_map]
  simp [Function.comp_def]

/-- A first line that is no marker line is gone through. -/
theorem upToClosing?_of_absent {text : Text} (absent : closing? text = none) :
    upToClosing? true text = upToClosing? false text := by
  rw [upToClosing?.eq_def true, upToClosing?.eq_def false]
  simp [absent]

/-- A text with a first line that is no marker line does not close a block. -/
theorem closing?_eq_none {text : Text} {line : Line} {behind : List Line}
    (areLines : text.lines = line :: behind) (notMarker : ¬IsMarker line) :
    closing? text = none := by
  refine Option.eq_none_iff_forall_ne_some.mpr fun rest found => ?_
  obtain ⟨first, others, sameLines, isMarker, -⟩ := closing?_eq_some_iff.mp found
  obtain ⟨rfl, -⟩ := List.cons.inj (areLines.symm.trans sameLines)
  exact notMarker isMarker

/-- Lines in front of the first marker line belong to the block. -/
theorem upToClosing?_flatMap {inside : List Line} (areEnded : ∀ line ∈ inside, line.IsEnded)
    (notMarkers : ∀ line ∈ inside, ¬IsMarker line) (rest : Text) :
    upToClosing? true (inside.flatMap Line.written ++ rest) =
      (upToClosing? true rest).map
        fun (block, template) => (inside.flatMap Line.written ++ block, template) := by
  induction inside with
  | nil => simp
  | cons line inside inductionHypothesis =>
    obtain ⟨isEnded, othersEnded⟩ := List.forall_mem_cons.mp areEnded
    obtain ⟨notMarker, notOthers⟩ := List.forall_mem_cons.mp notMarkers
    rw [List.flatMap_cons, List.append_assoc,
      upToClosing?_of_absent (closing?_eq_none (isEnded.lines_append _) notMarker),
      upToClosing?_written isEnded, inductionHypothesis othersEnded notOthers, Option.map_map]
    simp [Function.comp_def]

/-- Without a marker line there is no block. -/
theorem upToClosing?_eq_none {text : Text} (notMarkers : ∀ line ∈ text.lines, ¬IsMarker line) :
    upToClosing? true text = none := by
  have areLines := Text.areLines_lines text
  generalize isAll : text.lines = all at areLines notMarkers
  induction areLines with
  | @last content onOneLine =>
    have nothing := upToClosing?_append onOneLine []
    rw [List.append_nil] at nothing
    rw [upToClosing?_of_absent (closing?_eq_none isAll (notMarkers _ List.mem_cons_self)), nothing]
    rfl
  | @ended line rest others isEnded further inductionHypothesis =>
    obtain ⟨notMarker, notOthers⟩ := List.forall_mem_cons.mp notMarkers
    rw [upToClosing?_of_absent (closing?_eq_none isAll notMarker), upToClosing?_written isEnded,
      inductionHypothesis (Text.areLines_iff.mp further) notOthers]
    rfl

/-- The first marker line among lines that have one. -/
theorem exists_first_marker {all : List Line} (exists_marker : ∃ line ∈ all, IsMarker line) :
    ∃ inside closing behind, all = inside ++ closing :: behind ∧
      (∀ line ∈ inside, ¬IsMarker line) ∧ IsMarker closing := by
  cases found : all.find? (decide <| IsMarker ·) with
  | none =>
    obtain ⟨line, inside, isMarker⟩ := exists_marker
    exact absurd isMarker (by simpa using List.find?_eq_none.mp found line inside)
  | some closing =>
    obtain ⟨isMarker, inside, behind, splits, notMarkers⟩ := List.find?_eq_some_iff_append.mp found
    exact ⟨inside, closing, behind, splits, by simpa using notMarkers, by simpa using isMarker⟩

/-- Up to the first marker line are the lines in front of it, and behind it are all others. -/
theorem upToClosing?_of_lines_eq {text : Text} {inside behind : List Line} {closing : Line}
    (areLines : text.lines = inside ++ closing :: behind)
    (notMarkers : ∀ line ∈ inside, ¬IsMarker line) (isMarker : IsMarker closing) :
    upToClosing? true text =
      some (inside.flatMap Line.written, behind.flatMap Line.written) := by
  obtain ⟨areEnded, rest, rfl, sameLines⟩ :=
    Text.exists_of_lines_eq_append (List.cons_ne_nil closing behind) areLines
  have closes := closing?_eq_some_iff.mpr ⟨closing, behind, sameLines, isMarker, rfl⟩
  have atOnce : upToClosing? true rest = some ([], behind.flatMap Line.written) := by
    rw [upToClosing?.eq_def]
    simp [closes]
  rw [upToClosing?_flatMap areEnded notMarkers, atOnce]
  simp

/-! ## The division of a document -/

/-- The lines of a document with front matter. -/
structure Division (document : Text) where
  before : List Line
  opening : Line
  inside : List Line
  closing : Line
  behind : List Line
  lines_eq : document.lines = before ++ opening :: (inside ++ closing :: behind)
  /-- The opening marker line is the first line with anything but white space on it. -/
  isSpace : ∀ line ∈ before, ∀ point ∈ line.written, Text.isSpace point = true
  opens : IsMarker opening
  /-- The closing marker line is the next one. -/
  notMarkers : ∀ line ∈ inside, ¬IsMarker line
  closes : IsMarker closing

namespace Division

variable {document : Text}

/-- The text between the two marker lines. -/
def block (division : Division document) : Text :=
  division.inside.flatMap Line.written

/-- The text behind the second marker line. -/
def template (division : Division document) : Text :=
  division.behind.flatMap Line.written

end Division

/-- White space ends where a text begins with something else. -/
theorem split?_append {space rest : Text} (isSpace : ∀ point ∈ space, Text.isSpace point = true)
    (begins : ∀ first ∈ rest.head?, Text.isSpace first = false) :
    split? (space ++ rest) =
      if space.getLast?.all (· == .char '\n') then (opening? rest).bind (upToClosing? true)
      else none := by
  have nothing : rest.takeWhile Text.isSpace = [] ∧ rest.dropWhile Text.isSpace = rest := by
    cases rest with
    | nil => exact ⟨rfl, rfl⟩
    | cons first rest => simp [begins first rfl]
  rw [split?, List.takeWhile_append_of_pos isSpace, List.dropWhile_append_of_pos isSpace,
    nothing.1, nothing.2, List.append_nil]

/-- What splits a document finds its division. -/
theorem split?_of_division {document : Text} (division : Division document) :
    split? document = some (division.block, division.template) := by
  obtain ⟨before, opening, inside, closing, behind, lines_eq, isSpace, opens, notMarkers, closes⟩ :=
    division
  obtain ⟨areEnded, rest, rfl, sameLines⟩ :=
    Text.exists_of_lines_eq_append (List.cons_ne_nil _ _) lines_eq
  obtain ⟨openingEnded, further, rfl, others⟩ :=
    @Text.exists_of_lines_eq_append _ _ [opening] (by simp) sameLines
  simp only [List.flatMap_singleton] at sameLines ⊢
  have notSpace : ∀ first ∈ (opening.written ++ further).head?, Text.isSpace first = false := by
    obtain ⟨blanks, isContent, -⟩ := opens
    rintro first isFirst
    obtain rfl : first = .char '-' := by
      simpa [Line.written, isContent, Text.of, eq_comm] using isFirst
    decide
  have allSpace : ∀ point ∈ before.flatMap Line.written, Text.isSpace point = true := by
    intro point inSpace
    obtain ⟨line, inBefore, inLine⟩ := List.mem_flatMap.mp inSpace
    exact isSpace line inBefore point inLine
  have endsLine := Text.endsLine_iff.mp (Text.endsLine_flatMap areEnded)
  rw [split?_append allSpace notSpace, if_pos endsLine,
    opening?_written opens (openingEnded opening List.mem_cons_self), Option.bind_some,
    upToClosing?_of_lines_eq others notMarkers closes]
  rfl

/-- A document is split where its division is. -/
theorem split?_eq_some_iff {document block template : Text} :
    split? document = some (block, template) ↔
      ∃ division : Division document, division.block = block ∧ division.template = template := by
  constructor
  · intro found
    unfold split? at found
    simp only [Option.ite_none_right_eq_some, Option.bind_eq_some_iff] at found
    obtain ⟨endsLine, further, opens, closes⟩ := found
    obtain ⟨before, areEnded, isSpace⟩ := (Text.endsLine_iff.mpr endsLine).exists_lines
    obtain ⟨opening, isOpening, openingLines⟩ := opening?_eq_some_iff.mp opens
    obtain ⟨inside, closing, behind, others, notMarkers, isClosing⟩ :=
      @exists_first_marker further.lines <| Decidable.byContradiction fun absent => by
        rw [upToClosing?_eq_none (by simpa using absent)] at closes
        cases closes
    rw [upToClosing?_of_lines_eq others notMarkers isClosing] at closes
    obtain ⟨isBlock, isTemplate⟩ := Prod.mk.inj (Option.some.inj closes)
    refine ⟨⟨before, opening, inside, closing, behind, ?_, ?_, isOpening, notMarkers, isClosing⟩,
      isBlock, isTemplate⟩
    · rw [← others, ← openingLines, ← Text.lines_flatMap_append areEnded, isSpace,
        List.takeWhile_append_dropWhile]
    · intro line inBefore point inLine
      have inSpace := List.mem_flatMap.mpr ⟨line, inBefore, inLine⟩
      rw [isSpace] at inSpace
      exact List.all_eq_true.mp List.all_takeWhile point inSpace
  · rintro ⟨division, rfl, rfl⟩
    exact split?_of_division division

/-- The first line of a document that is no white space is a marker line, and there is a marker line
behind that one. -/
def HasFrontMatter (document : Text) : Prop :=
  ∃ before opening others, document.lines = before ++ opening :: others ∧
    (∀ line ∈ before, ∀ point ∈ line.written, Text.isSpace point = true) ∧
    IsMarker opening ∧ ∃ line ∈ others, IsMarker line

/-- A document is split exactly if it has front matter. -/
theorem isSome_split?_iff {document : Text} :
    (split? document).isSome ↔ HasFrontMatter document := by
  constructor
  · intro found
    obtain ⟨⟨block, template⟩, found⟩ := Option.isSome_iff_exists.mp found
    obtain ⟨division, -, -⟩ := split?_eq_some_iff.mp found
    exact ⟨_, _, _, division.lines_eq, division.isSpace, division.opens, division.closing,
      by simp, division.closes⟩
  · rintro ⟨before, opening, others, lines_eq, isSpace, opens, isFurther⟩
    obtain ⟨inside, closing, behind, rfl, notMarkers, closes⟩ := exists_first_marker isFurther
    exact Option.isSome_iff_exists.mpr ⟨_, split?_of_division
      ⟨before, opening, inside, closing, behind, lines_eq, isSpace, opens, notMarkers, closes⟩⟩

/-- Complete lines without a marker line are a block when they stand between two marker lines. -/
theorem split?_between {block : Text} (endsLine : block.EndsLine)
    (notMarkers : ∀ line ∈ block.lines, ¬IsMarker line) (template : Text) :
    split? (.of "---\n" ++ (block ++ (.of "---\n" ++ template))) = some (block, template) := by
  obtain ⟨inside, areEnded, rfl⟩ := endsLine.exists_lines
  let marker : Line := ⟨.of "---", .of "\n"⟩
  have isMarker : IsMarker marker := by decide
  have isEnded : marker.IsEnded := ⟨by decide, .inr ⟨rfl, by decide⟩⟩
  have blockLines := Text.lines_flatMap_append areEnded []
  rw [List.append_nil] at blockLines
  refine split?_eq_some_iff.mpr ⟨⟨[], marker, inside, marker, template.lines, ?_, by simp, isMarker,
    fun line inInside => notMarkers line (by simp [blockLines, inInside]), isMarker⟩, rfl,
    template.flatMap_written_lines⟩
  have opening := isEnded.lines_append
    (inside.flatMap Line.written ++ (marker.written ++ template))
  rw [Text.lines_flatMap_append areEnded, isEnded.lines_append] at opening
  exact opening

/-! ## The data of a document -/

/-- What is read from a document with front matter, given what its block is read as and the template
behind it. -/
def readAs (template : Text) :
    Except Yaml.Error Datum → Except DataError (Option Record × Text)
  | .error error => .error (.yaml error)
  | .ok .null => .ok (some [], template)
  | .ok (.mapping entries) => .ok (some entries, template)
  | .ok other => .error (.notMapping (.of "Front matter") other.typeName)

/-- What is read from a document that is split. -/
theorem readWith_of_split? (readers : Readers) {document block template : Text}
    (splits : split? document = some (block, template)) :
    readWith readers document = readAs template (readers.yaml block) := by
  simp only [readWith, splits]
  cases readers.yaml block with
  | error error => rfl
  | ok data => cases data <;> rfl

/-- A document is split where its marker lines are, and the data are what the block between them is
read as. A document without front matter is a template as a whole. So lines between two marker
lines are read as data, whatever template stands behind them, and this template is what remains. -/
theorem readWith_eq (readers : Readers) :
    (∀ document : Text,
      ((split? document).isSome ↔ HasFrontMatter document) ∧
        (∀ division : Division document,
          split? document = some (division.block, division.template) ∧
            readWith readers document =
              readAs division.template (readers.yaml division.block)) ∧
        (¬HasFrontMatter document → readWith readers document = .ok (none, document))) ∧
      ∀ block template : Text, block.EndsLine → (∀ line ∈ block.lines, ¬IsMarker line) →
        (readers.yaml block = .ok .null →
          readWith readers (.of "---\n" ++ (block ++ (.of "---\n" ++ template))) =
            .ok (some [], template)) ∧
        ∀ entries, readers.yaml block = .ok (.mapping entries) →
          readWith readers (.of "---\n" ++ (block ++ (.of "---\n" ++ template))) =
            .ok (some entries, template) := by
  refine ⟨fun document => ⟨isSome_split?_iff, fun division => ?_, fun absent => ?_⟩,
    fun block template endsLine notMarkers => ?_⟩
  · have splits := split?_of_division division
    exact ⟨splits, readWith_of_split? readers splits⟩
  · have unsplit : split? document = none := by
      simpa using mt isSome_split?_iff.mp absent
    rw [readWith, unsplit]
  · have found := readWith_of_split? readers (split?_between endsLine notMarkers template)
    refine ⟨fun isNull => ?_, fun entries isMapping => ?_⟩
    · rw [found, isNull]
      rfl
    · rw [found, isMapping]
      rfl

/-- A block with nothing but a line that only looks like a marker line, in front of a template that
begins with a marker line. -/
theorem readWith_eq_comment :
    readWith .standard (.of "---\n" ++ (.of "#---\n" ++ (.of "---\n" ++ .of "---\n"))) =
      .ok (some [], .of "---\n") := by
  have isRead : Readers.standard.yaml (.of "#---\n") = .ok .null := rfl
  exact ((readWith_eq .standard).2 (.of "#---\n") (.of "---\n")
    (Text.endsLine_iff.mpr (by decide)) (by decide)).1 isRead

end Stencil.FrontMatter
