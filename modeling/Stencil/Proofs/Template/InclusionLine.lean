import Stencil.Proofs.Tag.Grammar
import Stencil.Proofs.Template.Passage

/-!
# A line that is an inclusion

An inclusion that has a line to itself disappears with its line, and keeps the blanks in front of it
as its indentation. A line with blanks, the tag and a line feed, and nothing else, is therefore the
one node (`Template.parse_inclusionLine`). At the other end, a text in which no tag opens is a
literal (`Template.parse_of_not_holds`).
-/

namespace Stencil

namespace Text

/-- The code points that are white space. -/
def spaces : List Nat :=
  [9, 10, 11, 12, 13, 28, 29, 30, 31, 32, 133, 160, 5760, 8192, 8193, 8194, 8195, 8196, 8197, 8198,
   8199, 8200, 8201, 8202, 8232, 8233, 8239, 8287, 12288]

/-- White space is one of a few code points. -/
theorem mem_spaces {point : CodePoint} (space : isSpace point = true) : point.toNat ∈ spaces := by
  unfold isSpace spaceBoundaries at space
  generalize point.toNat = number at space
  simp only [withinBoundaries, Bool.if_false_left, Bool.if_true_left, Bool.and_eq_true,
    Bool.or_eq_true, Bool.not_eq_true', decide_eq_true_eq, decide_eq_false_iff_not,
    Bool.false_eq_true, or_false] at space
  simp only [spaces, List.mem_cons, List.not_mem_nil, or_false]
  omega

/-- No part of a word is white space. -/
theorem isSpace_of_isWord {point : CodePoint} (word : isWord point = true) :
    isSpace point = false := by
  cases space : isSpace point with
  | false => rfl
  | true =>
    have notWord : ∀ number ∈ spaces, withinBoundaries number alphanumericBoundaries = false := by
      decide +kernel
    have notAlphanumeric := notWord _ (mem_spaces space)
    obtain rfl : point = .char '_' := by simpa [isWord, notAlphanumeric] using word
    exact space.symm

end Text

/-! ## The tag -/

namespace Tag

variable {name rest : Text}

/-- A tag for an inclusion. -/
def includes (name : Text) : Text :=
  .of "\x7b\x7b>" ++ (name ++ .of "\x7d\x7d")

/-- No closing delimiter begins with a part of a word, with white space or without it. -/
theorem closing?_of_isWord {first : CodePoint} (word : Text.isWord first = true) (rest : Text) :
    closing? (.of "\x7d\x7d") (first :: rest) = none ∧
      Text.after? (.of "\x7d\x7d") (first :: rest) = none := by
  have apart : .char '\x7d' ≠ first := by
    rintro rfl
    exact absurd word (by decide)
  have begins : Text.after? (.of "\x7d\x7d") (first :: rest) = none := if_neg apart
  exact ⟨by simp [closing?, afterSpace, Text.longestRun, Text.isSpace_of_isWord word, begins],
    begins⟩

/-- A word is a body up to its end. -/
theorem shortestBody_word (nonempty : name ≠ []) (word : ∀ point ∈ name, Text.isWord point = true)
    (rest : Text) :
    Text.shortestBody (.of "\x7d\x7d") (closing? (.of "\x7d\x7d"))
        (name ++ (.of "\x7d\x7d" ++ rest)) =
      some (name, ⟨(), .of "\x7d\x7d", rest⟩) := by
  induction name with
  | nil => exact absurd rfl nonempty
  | cons first name inductionHypothesis =>
    obtain ⟨firstWord, further⟩ := List.forall_mem_cons.mp word
    have begins := (closing?_of_isWord firstWord (name ++ (.of "\x7d\x7d" ++ rest))).2
    rw [List.cons_append, Text.shortestBody, begins]
    cases name with
    | nil => rfl
    | cons second name =>
      have goesOn := (closing?_of_isWord (further second List.mem_cons_self)
        (name ++ (.of "\x7d\x7d" ++ rest))).1
      rw [inductionHypothesis (List.cons_ne_nil second name) further, List.cons_append, goesOn]
      rfl

/-- A tag for an inclusion is read as that, whatever stands behind it. -/
theorem read?_includes (nonempty : name ≠ []) (word : ∀ point ∈ name, Text.isWord point = true)
    (rest : Text) :
    read? .standard (includes name ++ rest) =
      some ⟨⟨.plain (some (.char '>')), name⟩, includes name, rest⟩ := by
  have isBody : body? (.of "\x7d\x7d") (closing? (.of "\x7d\x7d"))
      (name ++ (.of "\x7d\x7d" ++ rest)) = some ⟨name, name ++ .of "\x7d\x7d", rest⟩ := by
    have shortest := shortestBody_word nonempty word rest
    obtain ⟨first, name, rfl⟩ := List.exists_cons_of_ne_nil nonempty
    have notSpace := Text.isSpace_of_isWord (word first List.mem_cons_self)
    rw [List.cons_append] at shortest ⊢
    rw [body?, if_neg (by simp [notSpace]), bareBody?, shortest]
    rfl
  let inside : Text := .char '>' :: (name ++ (Text.of "\x7d\x7d" ++ rest))
  have opens : Text.after? Delimiters.standard.opening (includes name ++ rest) = some inside :=
    Text.after?_eq_some_iff.mpr (by simp [includes, inside, Delimiters.standard, Text.of])
  have closes : Text.holds Delimiters.standard.closing inside = true :=
    Text.holds_append (.char '>' :: name) (Text.holds_of_after? (Text.after?_append_self _ rest))
  have isInterior : interior? Delimiters.standard.closing inside =
      some
        ⟨⟨.plain (some (.char '>')), name⟩, .char '>' :: (name ++ Text.of "\x7d\x7d"), rest⟩ := by
    have notWord : Text.isWord (.char '>') = false := by decide
    simp [interior?, between?, marked?, inside, notWord, Delimiters.standard, isBody,
      Text.Reading.map, Text.Reading.after]
  have found := @afterSpace_eq _ _ [] inside _ (by simp [Text.IsSpacing])
    (by simp [inside]; decide) isInterior
  rw [read?, opens, Option.bind_some, if_pos closes]
  rw [List.nil_append] at found
  rw [found]
  simp [Text.Reading.after, includes, Delimiters.standard, Text.of]

end Tag

/-! ## The line -/

/-- A line that is an inclusion: blanks, and a name that is a word. -/
structure InclusionLine where
  indent : Text
  name : Text
  isBlank : ∀ point ∈ indent, Text.isBlank point = true
  nonempty : name ≠ []
  isWord : ∀ point ∈ name, Text.isWord point = true

namespace InclusionLine

/-- The line as it is written. -/
def written (line : InclusionLine) : Text :=
  line.indent ++ (Tag.includes line.name ++ .of "\n")

end InclusionLine

namespace Template

section Absent

variable {enclosing : Option Text} {delimiters : Delimiters}

/-- Without a tag, nothing happens on the way to the end. -/
theorem parseLevel_of_absent {cursor : Cursor} (absent : Tag.find? delimiters cursor.rest = none) :
    parseLevel enclosing delimiters cursor = ([], .ok (.ofText cursor.rest)) := by
  rw [parseLevel.eq_def]
  split
  · rfl
  · rename_i found
    simp [absent] at found

/-- A text without an opening delimiter is a literal. -/
theorem parse_of_not_holds (solid : delimiters.AreSolid) {text : Text}
    (absent : Text.holds delimiters.opening text = false) :
    parse delimiters text = ([], .ok (Node.literals text)) := by
  have noTag : Tag.find? delimiters text = none := by
    refine (Tag.find?_eq_none_iff solid).mpr fun before start splits => ?_
    have begins : Text.after? delimiters.opening start = none := by
      cases found : Text.after? delimiters.opening start with
      | none => rfl
      | some rest =>
        have occurs := Text.holds_append before (Text.holds_of_after? found)
        rw [← splits, absent] at occurs
        cases occurs
    rw [Tag.read?, begins]
    rfl
  have level := @parseLevel_of_absent none delimiters (.start text) noTag
  unfold parse
  rw [level]
  rfl

/-- A tag that asks for nodes makes nothing else happen. -/
theorem parseLevel_of_emit {visit : Visit} {nodes : List Node} (isNext : visit.IsNext delimiters)
    (asks : visit.request = .emit nodes) :
    parseLevel enclosing delimiters visit.cursor =
      (parseLevel enclosing delimiters visit.next).after [] (visit.placement.kept ++ nodes)
        visit.text (Nat.le_of_lt (Placement.next_shorter isNext)) := by
  obtain ⟨cursor, occurrence⟩ := visit
  rw [parseLevel.eq_def]
  split
  · rename_i absent
    simp [Visit.IsNext, absent] at isNext
  · rename_i other found
    obtain rfl : other = occurrence := Option.some.inj (found.symm.trans isNext)
    simp only [Visit.request, Visit.placement] at asks
    simp only [asks]
    rfl

end Absent

/-- The tag of the line is the first one. -/
theorem find?_inclusionLine (line : InclusionLine) :
    Tag.find? .standard line.written =
      some ⟨[], line.indent, Tag.includes line.name, ⟨.plain (some (.char '>')), line.name⟩,
        .of "\n"⟩ := by
  refine (Tag.find?_eq_some_iff (by decide)).mpr
    ⟨rfl, Tag.read?_includes line.nonempty line.isWord _, line.isBlank, by simp, ?_⟩
  intro before start splits shorter
  -- What begins inside the indentation begins with a blank.
  rcases List.append_eq_append_iff.mp splits with ⟨further, rfl, -⟩ | ⟨left, isIndent, rfl⟩
  · rw [List.length_append] at shorter
    exact absurd shorter (Nat.not_lt.mpr (Nat.le_add_right _ _))
  · cases left with
    | nil => simp [isIndent] at shorter
    | cons point left =>
      exact Tag.read?_cons_of_isSpace (by decide) (Text.isSpace_of_isBlank
        (line.isBlank point (by simp_all)))

/-- The line is the inclusion, with the blanks as its indentation. -/
theorem parse_inclusionLine (line : InclusionLine) :
    parse .standard line.written = ([], .ok [.inclusion line.name line.indent]) := by
  let visit : Visit := ⟨.start line.written, [], line.indent, Tag.includes line.name,
    ⟨.plain (some (.char '>')), line.name⟩, .of "\n"⟩
  have isNext : visit.IsNext .standard := find?_inclusionLine line
  have isBreak : visit.lineBreak? = some (.of "\n") :=
    Visit.lineBreak?_eq_some_iff.mpr ⟨rfl, rfl, rfl⟩
  have asks : visit.request = .emit [.inclusion line.name line.indent] := by
    rw [Visit.request, visit.indent_eq, isBreak]
    rfl
  have kept : visit.placement.kept = [] := by
    rw [visit.kept_eq, isBreak]
    rfl
  have ends : visit.next.rest = [] := by
    have rest := visit.rest_eq
    rw [isBreak] at rest
    exact List.append_right_eq_self.mp rest.symm
  have noTag : Tag.find? .standard visit.next.rest = none := by
    rw [ends]
    rfl
  have level : parseLevel none .standard (.start line.written) = _ := parseLevel_of_emit isNext asks
  rw [parseLevel_of_absent noTag, kept] at level
  have parsed : parse .standard line.written =
      ([], .ok ([.inclusion line.name line.indent] ++ Node.literals visit.next.rest)) := by
    unfold parse
    rw [level]
    rfl
  rw [parsed, ends]
  rfl

end Template

end Stencil
