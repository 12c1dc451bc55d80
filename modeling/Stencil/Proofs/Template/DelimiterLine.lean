import Stencil.Proofs.Cache.Contents
import Stencil.Proofs.Tag.Grammar
import Stencil.Proofs.Template.Passage
import Stencil.Proofs.Template.Place

/-!
# A first line that sets the delimiters

A template can be parsed with other delimiters than the standard ones in two ways: by passing these,
or by a first line that sets them. The tag on such a line is read for all delimiters in which no
standard closing delimiter occurs (`Tag.read?_setting`), whatever else they consist of. It
disappears with its line, and a line begins behind it, so that parsing goes on as it would from the
start of a template one line further up (`Template.parse_settingLine`).
-/

namespace Stencil

/-! ## Words and solid texts -/

namespace Text

/-- A solid text in front of white space, or of nothing, is the first word. -/
theorem words_append_of_isSolid {text rest : Text} (solid : text.IsSolid)
    (ends : ∀ first ∈ rest.head?, isSpace first = true) :
    words (text ++ rest) = text :: words rest := by
  obtain ⟨nonempty, notSpace⟩ := solid
  induction text with
  | nil => exact absurd rfl nonempty
  | cons first text inductionHypothesis =>
    have firstNotSpace := notSpace first List.mem_cons_self
    cases text with
    | nil =>
      cases rest with
      | nil => simp [words, firstNotSpace]
      | cons space rest => simp [words, firstNotSpace, ends space rfl]
    | cons second text =>
      have further := inductionHypothesis (List.cons_ne_nil second text)
        fun point inside => notSpace point (List.mem_cons_of_mem first inside)
      have secondNotSpace := notSpace second (by simp)
      simp only [List.cons_append] at further ⊢
      rw [words, further]
      simp [firstNotSpace, secondNotSpace]

/-- A solid text is on one line. -/
theorem IsSolid.lineBreaks_eq_zero {text : Text} (solid : text.IsSolid) : lineBreaks text = 0 := by
  refine List.count_eq_zero.mpr fun inside => ?_
  have notSpace := solid.2 _ inside
  exact absurd notSpace (by decide)

/-- A piece that does not occur in a text begins nowhere in it if what stands behind the text is no
part of the piece. -/
theorem isClear_of_not_holds {piece text rest : Text} {point : CodePoint}
    (absent : holds piece text = false) (foreign : point ∉ piece) :
    IsClear piece (point :: rest) text := by
  rintro before start rfl -
  have notHere : ∀ further, start ≠ piece ++ further := by
    rintro further rfl
    have occurs := holds_append before (holds_of_after? (after?_append_self piece further))
    rw [absent] at occurs
    cases occurs
  cases begins : after? piece (start ++ point :: rest) with
  | none => rfl
  | some beyond =>
    rcases List.append_eq_append_iff.mp (after?_eq_some_iff.mp begins) with
      ⟨between, rfl, behind⟩ | ⟨further, isStart, -⟩
    · cases between with
      | nil => exact absurd (by simp) (notHere [])
      | cons first between =>
        obtain ⟨rfl, -⟩ := List.cons.inj behind
        exact absurd (List.mem_append_right start List.mem_cons_self) foreign
    · exact absurd isStart (notHere further)

/-- No spacing stands in front of a text that does not begin with white space. -/
theorem IsSpacing.eq_nil_of_begins {space text : Text} (spacing : IsSpacing space)
    (begins : ∀ first ∈ (space ++ text).head?, isSpace first = false) : space = [] := by
  cases space with
  | nil => rfl
  | cons first space =>
    have notSpace := begins first rfl
    simp [spacing first List.mem_cons_self] at notSpace

/-- No spacing stands behind a text that does not end with white space. -/
theorem IsSpacing.eq_nil_of_ends {space text : Text} (spacing : IsSpacing space)
    (ends : ∀ last ∈ (text ++ space).getLast?, isSpace last = false) : space = [] := by
  cases isLast : space.getLast? with
  | none => exact List.getLast?_eq_none_iff.mp isLast
  | some last =>
    have notSpace := ends last (by simp [List.getLast?_append, isLast])
    simp [spacing last (List.mem_of_getLast? isLast)] at notSpace

end Text

/-! ## The tag -/

namespace Delimiters

/-- Delimiters as they are written in a tag that sets them. -/
def written (delimiters : Delimiters) : Text :=
  delimiters.opening ++ .char ' ' :: delimiters.closing

/-- The tag that sets delimiters, between standard ones. -/
def setting (delimiters : Delimiters) : Text :=
  standard.opening ++ (.char '=' :: (delimiters.written ++ .char '=' :: standard.closing))

/-- Delimiters that a tag between standard ones can set. -/
structure CanBeSet (delimiters : Delimiters) : Prop where
  solid : delimiters.AreSolid
  opening : Text.holds standard.closing delimiters.opening = false
  closing : Text.holds standard.closing delimiters.closing = false

variable {delimiters : Delimiters}

/-- The two delimiters are the words of what is written in the tag. -/
theorem words_written (solid : delimiters.AreSolid) :
    Text.words delimiters.written = [delimiters.opening, delimiters.closing] := by
  have space : Text.isSpace (.char ' ') = true := by decide
  have closing := @Text.words_append_of_isSolid _ [] solid.closing (by simp)
  rw [List.append_nil] at closing
  rw [written, Text.words_append_of_isSolid solid.opening (by simpa using space)]
  simp [Text.words, space, closing]

/-- What is written in the tag begins with the opening delimiter. -/
theorem AreSolid.begins_written (solid : delimiters.AreSolid) :
    ∀ first ∈ delimiters.written.head?, Text.isSpace first = false := by
  obtain ⟨nonempty, notSpace⟩ := solid.opening
  obtain ⟨start, others, opening⟩ := List.exists_cons_of_ne_nil nonempty
  simpa [written, opening] using notSpace start (by simp [opening])

/-- What is written in the tag ends with the closing delimiter. -/
theorem AreSolid.ends_written (solid : delimiters.AreSolid) :
    ∀ last ∈ delimiters.written.getLast?, Text.isSpace last = false := by
  obtain ⟨nonempty, notSpace⟩ := solid.closing
  have ends : delimiters.written.getLast? = some (delimiters.closing.getLast nonempty) := by
    simp [written, List.getLast?_cons, List.getLast?_eq_some_getLast nonempty]
  simpa [ends] using notSpace _ (List.getLast_mem nonempty)

/-- The tag is on one line. -/
theorem AreSolid.lineBreaks_setting (solid : delimiters.AreSolid) :
    Text.lineBreaks delimiters.setting = 0 := by
  have opening := List.count_eq_zero.mp solid.opening.lineBreaks_eq_zero
  have closing := List.count_eq_zero.mp solid.closing.lineBreaks_eq_zero
  refine List.count_eq_zero.mpr ?_
  simp [setting, written, standard, Text.of, opening, closing]

/-- No standard closing delimiter begins in what is written in the tag. -/
theorem CanBeSet.isClear (canBeSet : delimiters.CanBeSet) (rest : Text) :
    Text.IsClear standard.closing (.char '=' :: rest) delimiters.written :=
  Text.isClear_append_iff.mpr ⟨Text.isClear_of_not_holds canBeSet.opening (by decide),
    Text.isClear_cons_iff.mpr ⟨rfl, Text.isClear_of_not_holds canBeSet.closing (by decide)⟩⟩

end Delimiters

namespace Tag

variable {delimiters : Delimiters} {rest : Text}

/-- The tag that sets delimiters is written as one with equals signs. -/
theorem isWritten_setting (canBeSet : delimiters.CanBeSet) (rest : Text) :
    IsWritten .standard rest ⟨.change, delimiters.written⟩ delimiters.setting := by
  have spacing : Text.IsSpacing [] := by simp [Text.IsSpacing]
  exact .intro spacing (.intro (by simp) spacing (by simp [Delimiters.written])
    (canBeSet.isClear _) spacing spacing)

/-- Between equals signs stands the body, if it neither begins nor ends with white space. -/
theorem body_eq_of_isWritten {body : Text} {tag : Tag} (isChange : tag.form = .change)
    (written : IsWritten delimiters rest tag
      (delimiters.opening ++ (.char '=' :: (body ++ .char '=' :: delimiters.closing))))
    (begins : ∀ first ∈ body.head?, Text.isSpace first = false)
    (ends : ∀ last ∈ body.getLast?, Text.isSpace last = false) : tag.body = body := by
  generalize isSource : delimiters.opening ++ _ = source at written
  obtain @⟨outer, interior, outers, isInterior⟩ := written
  obtain @⟨form, found, inner, gap, last, -, inners, -, -, gaps, lasts⟩ := isInterior
  obtain rfl : form = .change := isChange
  have inside := List.append_cancel_left isSource
  have equals : Text.isSpace (.char '=') = false := by decide
  obtain rfl : outer = [] := outers.eq_nil_of_begins (by
    rw [← inside]
    simpa using equals)
  have bodies : (body ++ [.char '=']) ++ delimiters.closing =
      (inner ++ found ++ gap ++ .char '=' :: last) ++ delimiters.closing := by
    simpa [Form.left, Form.right] using inside
  have bodies := List.append_cancel_right bodies
  obtain rfl : last = [] := by
    refine @Text.IsSpacing.eq_nil_of_ends _ (inner ++ found ++ gap ++ [.char '=']) lasts ?_
    rw [List.append_assoc, List.singleton_append, ← bodies]
    simpa using equals
  obtain rfl := List.append_cancel_right bodies
  obtain rfl : inner = [] := @Text.IsSpacing.eq_nil_of_begins _ (found ++ gap) inners
    (by simpa using begins)
  obtain rfl : gap = [] := gaps.eq_nil_of_ends ends
  simp

/-- The tag that sets delimiters is read as that, if no brace stands behind it. -/
theorem read?_setting (canBeSet : delimiters.CanBeSet)
    (noBrace : .char '\x7d' ∉ rest.head?) :
    read? .standard (delimiters.setting ++ rest) =
      some ⟨⟨.change, delimiters.written⟩, delimiters.setting, rest⟩ := by
  obtain ⟨reading, read, isChange, -⟩ := exists_read?_eq_some (isWritten_setting canBeSet rest)
  have reaches : reading.rest = rest := by
    have clear : Text.IsClear Delimiters.standard.closing
        (Delimiters.standard.closing ++ rest)
        (.char '=' :: (delimiters.written ++ [.char '='])) :=
      Text.isClear_cons_iff.mpr ⟨rfl, Text.isClear_append_iff.mpr
        ⟨canBeSet.isClear _, Text.isClear_cons_iff.mpr ⟨rfl, .nil⟩⟩⟩
    have filled : ∃ point ∈ .char '=' :: (delimiters.written ++ [.char '=']),
        Text.isSpace point = false := ⟨_, List.mem_cons_self, by decide⟩
    have asText : delimiters.setting ++ rest = Delimiters.standard.opening ++
        ((.char '=' :: (delimiters.written ++ [.char '='])) ++
          (Delimiters.standard.closing ++ rest)) := by
      simp [Delimiters.setting]
    rcases read?_standard_reaches clear filled (asText ▸ read) with same | brace
    · exact same
    · exact absurd (by simp [brace]) noBrace
  have splits : delimiters.setting ++ rest = reading.source ++ reading.rest := (read?_splits read).1
  obtain ⟨value, source, beyond⟩ := reading
  obtain rfl : beyond = rest := reaches
  obtain rfl : source = delimiters.setting := (List.append_cancel_right splits).symm
  obtain ⟨form, body⟩ := value
  obtain rfl : form = .change := isChange rfl
  obtain rfl : body = delimiters.written :=
    body_eq_of_isWritten rfl (isWritten_of_read? read).1 canBeSet.solid.begins_written
      canBeSet.solid.ends_written
  exact read

end Tag

/-! ## The line -/

namespace Template

section SettingLine

variable {delimiters : Delimiters} {lineBreak : Text}

/-- The visit of a tag that sets delimiters at the start of a template. -/
def settingVisit (delimiters : Delimiters) (rest : Text) : Visit :=
  ⟨.start (delimiters.setting ++ rest),
    [], [], delimiters.setting, ⟨.change, delimiters.written⟩, rest⟩

/-- A template that begins with the tag has it for its first one, if no brace stands behind it. -/
theorem settingVisit_isNext (canBeSet : delimiters.CanBeSet) {rest : Text}
    (noBrace : .char '\x7d' ∉ rest.head?) :
    (settingVisit delimiters rest).IsNext .standard := by
  refine (Tag.find?_eq_some_iff (by decide)).mpr
    ⟨rfl, Tag.read?_setting canBeSet noBrace, nofun, nofun, ?_⟩
  exact fun _ _ _ shorter => absurd shorter (Nat.not_lt_zero _)

/-- The tag changes the delimiters. -/
theorem settingVisit_request (solid : delimiters.AreSolid) (rest : Text) :
    (settingVisit delimiters rest).request = .change delimiters := by
  simp [Visit.request, settingVisit, Tag.request, Tag.Form.sign, Delimiters.words_written solid]

/-- The tag disappears with its line. -/
theorem settingVisit_lineBreak? (delimiters : Delimiters)
    (isBreak : lineBreak = .of "\n" ∨ lineBreak = .of "\r\n") (template : Text) :
    (settingVisit delimiters (lineBreak ++ template)).lineBreak? = some lineBreak := by
  refine Visit.lineBreak?_eq_some_iff.mpr ⟨rfl, rfl, ?_⟩
  rcases isBreak with rfl | rfl <;> rfl

/-- Behind the line parsing goes on as from the start of a template one line further up. -/
theorem levelParts_settingVisit (canBeSet : delimiters.CanBeSet)
    (isBreak : lineBreak = .of "\n" ∨ lineBreak = .of "\r\n") (template : Text) :
    levelParts none delimiters (settingVisit delimiters (lineBreak ++ template)).next =
      resultBelow 1 (levelParts none delimiters (.start template)) := by
  have isLineBreak := settingVisit_lineBreak? delimiters isBreak template
  have text : (settingVisit delimiters (lineBreak ++ template)).text =
      delimiters.setting ++ lineBreak := by
    rw [Visit.text_eq, isLineBreak]
    rfl
  rw [← levelParts_below]
  refine levelParts_eq_of_atLineStart ?_ ?_ ?_
  · have rest := (settingVisit delimiters (lineBreak ++ template)).rest_eq
    rw [isLineBreak] at rest
    exact (List.append_cancel_left rest).symm
  · rw [Visit.next_breaks, text, Text.lineBreaks_append, canBeSet.solid.lineBreaks_setting]
    rcases isBreak with rfl | rfl <;> rfl
  · rw [Cursor.atLineStart, Visit.next_previous, text]
    rcases isBreak with rfl | rfl <;> simp [Text.of, Cursor.atLineStart, Cursor.start, Cursor.below]

/-- A first line that sets the delimiters is the same as passing them: parsing comes to the same
nodes, and a report is one line further down. -/
theorem parse_settingLine (canBeSet : delimiters.CanBeSet)
    (isBreak : lineBreak = .of "\n" ∨ lineBreak = .of "\r\n") (template : Text)
    (capacity other : Option Nat) :
    ((Cache.empty capacity).parse .standard
        (delimiters.setting ++ (lineBreak ++ template))).result =
      ((Cache.empty other).parse delimiters template).result.mapError (ParseError.below 1) := by
  have noBrace : .char '\x7d' ∉ (lineBreak ++ template).head? := by
    rcases isBreak with rfl | rfl <;> simp [Text.of]
  have isNext := settingVisit_isNext canBeSet noBrace
  have kept : (settingVisit delimiters (lineBreak ++ template)).placement.kept = [] := by
    rw [Visit.kept_eq, settingVisit_lineBreak? delimiters isBreak]
    rfl
  rw [Cache.parse_empty, Cache.parse_empty, parse_eq_map_parts, parse_eq_map_parts]
  change (parseLevel none .standard
    (settingVisit delimiters (lineBreak ++ template)).cursor).parts.map Parts.nodes = _
  rw [parts_at_tag isNext, settingVisit_request canBeSet.solid, kept]
  dsimp only
  rw [parts_eq_levelParts, parts_eq_levelParts, levelParts_settingVisit canBeSet isBreak]
  cases levelParts none delimiters (.start template) <;> rfl

/-- Delimiters of which one looks like the brackets of the tag that sets them. -/
def bracketDelimiters : Delimiters :=
  ⟨.of "=\x7b", .of "\x7d="⟩

/-- A section between such delimiters, on the line behind the one that sets them. -/
theorem parse_settingLine_bracketDelimiters :
    bracketDelimiters.CanBeSet ∧
      ((Cache.empty none).parse .standard
          (bracketDelimiters.setting ++ (.of "\r\n" ++ .of "=\x7b#s\x7d="))).result =
        .error ⟨.unclosed (.of "s"), 2⟩ := by
  have canBeSet : bracketDelimiters.CanBeSet := ⟨by decide, by decide, by decide⟩
  have parsed : parse bracketDelimiters (.of "=\x7b#s\x7d=") =
      ([], .error ⟨.unclosed (.of "s"), 1⟩) := by
    cbv
  have same := parse_settingLine canBeSet (.inr rfl) (.of "=\x7b#s\x7d=") none none
  rw [Cache.parse_empty, Cache.parse_empty, parsed] at same
  exact ⟨canBeSet, (Cache.parse_empty none _ _).trans same⟩

end SettingLine

end Template

end Stencil
