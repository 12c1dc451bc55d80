import Stencil.Proofs.Tag.Grammar

/-!
# The next tag is the leftmost one

A tag spans a part of a text if it is written there (`Tag.Spans`). Searching a text from a position
on finds nothing exactly if no tag begins there or further on; otherwise it finds the leftmost tag,
in the first form in which one is written at its place, and it leaves nothing out on the way
(`Tag.find?_drop_leftmost`).
-/

namespace Stencil.Tag

variable {delimiters : Delimiters} {text : Text}

/-- A tag is written in a text from one place up to another. -/
def Spans (delimiters : Delimiters) (text : Text) (tag : Tag) (start stop : Nat) : Prop :=
  ∃ before source rest, text = before ++ (source ++ rest) ∧ before.length = start ∧
    (before ++ source).length = stop ∧ IsWritten delimiters rest tag source

/-- A tag of some form begins at a place. -/
def Begins (delimiters : Delimiters) (text : Text) (form : Form) (start : Nat) : Prop :=
  ∃ tag stop, tag.form = form ∧ Spans delimiters text tag start stop

/-- An occurrence that is the leftmost one in a text from a position on. -/
structure Occurrence.IsLeftmost (delimiters : Delimiters) (text : Text) (position start : Nat)
    (occurrence : Occurrence) : Prop where
  covers : text.drop position =
    occurrence.content ++ occurrence.blank ++ (occurrence.source ++ occurrence.rest)
  start_eq : start = position + (occurrence.content ++ occurrence.blank).length
  spans : Spans delimiters text occurrence.tag start (start + occurrence.source.length)
  leftmost : ∀ form place, position ≤ place → Begins delimiters text form place → start ≤ place
  blank_isBlank : ∀ point ∈ occurrence.blank, Text.isBlank point = true
  content_notBlank : ∀ last ∈ occurrence.content.getLast?, Text.isBlank last = false
  form_eq_change_iff : occurrence.tag.form = .change ↔ Begins delimiters text .change start
  form_eq_braced_iff : occurrence.tag.form = .braced ↔
    ¬ Begins delimiters text .change start ∧ Begins delimiters text .braced start
  trimmed : occurrence.tag.body.IsTrimmed

/-- A tag begins at a place if it is written in front of what is behind the place. -/
theorem begins_iff {form : Form} {before behind : Text} :
    Begins delimiters (before ++ behind) form before.length ↔
      ∃ tag source rest, behind = source ++ rest ∧ IsWritten delimiters rest tag source ∧
        tag.form = form := by
  constructor
  · rintro ⟨tag, stop, isForm, other, source, rest, splits, same, -, written⟩
    obtain ⟨-, rfl⟩ := List.append_inj splits same.symm
    exact ⟨tag, source, rest, rfl, written, isForm⟩
  · rintro ⟨tag, source, rest, rfl, written, isForm⟩
    exact ⟨tag, _, isForm, before, source, rest, rfl, rfl, rfl, written⟩

/-- A tag of some form begins exactly where one is read. -/
theorem exists_begins_iff {before behind : Text} :
    (∃ form, Begins delimiters (before ++ behind) form before.length) ↔
      (read? delimiters behind).isSome := by
  simp only [begins_iff, read?_isSome_iff]
  constructor
  · rintro ⟨-, tag, source, rest, splits, written, -⟩
    exact ⟨tag, source, rest, splits, written⟩
  · rintro ⟨tag, source, rest, splits, written⟩
    exact ⟨tag.form, tag, source, rest, splits, written, rfl⟩

/-- A place where a tag begins lies in the text. -/
theorem Begins.exists_append {form : Form} {place : Nat}
    (begins : Begins delimiters text form place) :
    ∃ before behind, text = before ++ behind ∧ before.length = place := by
  obtain ⟨tag, stop, -, before, source, rest, splits, same, -, -⟩ := begins
  exact ⟨before, source ++ rest, splits, same⟩

/-- From a position on no tag begins exactly if none is read there. -/
theorem not_begins_iff (solid : delimiters.AreSolid) (position : Nat) :
    (∀ form place, position ≤ place → ¬ Begins delimiters text form place) ↔
      ∀ between behind, text.drop position = between ++ behind →
        read? delimiters behind = none := by
  constructor
  · intro nowhere between behind splits
    rcases Nat.lt_or_ge text.length position with beyond | inside
    · rw [List.drop_eq_nil_of_le (Nat.le_of_lt beyond)] at splits
      obtain ⟨-, rfl⟩ := List.append_eq_nil_iff.mp splits.symm
      exact read?_nil solid
    · have lead : text = (text.take position ++ between) ++ behind := by
        rw [List.append_assoc, ← splits, List.take_append_drop]
      refine Option.not_isSome_iff_eq_none.mp fun read => ?_
      obtain ⟨form, begins⟩ := exists_begins_iff.mpr read
      rw [← lead] at begins
      refine nowhere form _ ?_ begins
      rw [List.length_append, List.length_take_of_le inside]
      exact Nat.le_add_right _ _
  · intro absent form place further begins
    obtain ⟨before, behind, rfl, rfl⟩ := begins.exists_append
    have read := exists_begins_iff.mp ⟨form, begins⟩
    rw [absent _ behind (List.drop_append_of_le_length further)] at read
    simp at read

/-- What is found from a position on is the leftmost tag from there on. -/
theorem Occurrence.IsFirstIn.isLeftmost (before : Text) {occurrence : Occurrence}
    (isFirst : occurrence.IsFirstIn delimiters text) :
    occurrence.IsLeftmost delimiters (before ++ text) before.length
      (before.length + (occurrence.content ++ occurrence.blank).length) := by
  have splits : before ++ text = (before ++ (occurrence.content ++ occurrence.blank)) ++
      (occurrence.source ++ occurrence.rest) := by
    rw [isFirst.splits, List.append_assoc before]
  have start : (before ++ (occurrence.content ++ occurrence.blank)).length =
      before.length + (occurrence.content ++ occurrence.blank).length := List.length_append
  obtain ⟨written, trimmed⟩ := isWritten_of_read? isFirst.reads
  have begins : ∀ form, Begins delimiters (before ++ text) form
      (before.length + (occurrence.content ++ occurrence.blank).length) ↔
      ∃ tag source rest, occurrence.source ++ occurrence.rest = source ++ rest ∧
        IsWritten delimiters rest tag source ∧ tag.form = form := by
    intro form
    rw [splits, ← start]
    exact begins_iff
  exact
    { covers := by rw [List.drop_left, isFirst.splits]
      start_eq := rfl
      spans := ⟨_, _, _, splits, start, by rw [List.length_append, start], written⟩
      leftmost := by
        intro form place further begins
        obtain ⟨ahead, behind, same, rfl⟩ := begins.exists_append
        rw [same] at begins
        have read := exists_begins_iff.mp ⟨form, begins⟩
        -- What lies between the position and the place is the start of the text that is searched.
        obtain ⟨between, rfl, rfl⟩ : ∃ between, ahead = before ++ between ∧
            text = between ++ behind := by
          rcases List.append_eq_append_iff.mp same with ⟨between, rfl, rfl⟩ | ⟨between, rfl, rfl⟩
          · exact ⟨between, rfl, rfl⟩
          · have nothing : between = [] := by
              rw [List.length_append] at further
              exact List.length_eq_zero_iff.mp (by omega)
            exact ⟨[], by simp [nothing], by simp [nothing]⟩
        refine Nat.le_of_not_lt fun shorter => ?_
        have ahead : between.length < (occurrence.content ++ occurrence.blank).length := by
          rwa [List.length_append, Nat.add_lt_add_iff_left] at shorter
        rw [isFirst.leftmost between behind rfl ahead] at read
        simp at read
      blank_isBlank := isFirst.blank_isBlank
      content_notBlank := isFirst.content_notBlank
      form_eq_change_iff := by rw [begins, ← Tag.form_eq_change_iff isFirst.reads]
      form_eq_braced_iff := by rw [begins, begins, ← Tag.form_eq_braced_iff isFirst.reads]
      trimmed := trimmed }

/-- Searching a text from a position on finds nothing exactly if no tag begins there or further on;
otherwise it finds the leftmost tag. What is found makes up the text from the position on, with as
many blanks as possible told apart in front of the tag. The tag is one with equals signs if such a
tag begins at its place, otherwise one with braces if one of these does, and otherwise one without
brackets. Its body has no white space at its ends, unless it is a single white space. -/
theorem find?_drop_leftmost (solid : delimiters.AreSolid) (text : Text) (position : Nat) :
    (find? delimiters (text.drop position) = none ↔
      ∀ form place, position ≤ place → ¬ Begins delimiters text form place) ∧
    ∀ occurrence, find? delimiters (text.drop position) = some occurrence →
      ∃ start, occurrence.IsLeftmost delimiters text position start := by
  refine ⟨(find?_eq_none_iff solid).trans (not_begins_iff solid position).symm, ?_⟩
  intro occurrence found
  have inside : position ≤ text.length := by
    refine Nat.le_of_not_lt fun beyond => ?_
    rw [List.drop_eq_nil_of_le (Nat.le_of_lt beyond)] at found
    exact Nat.not_lt_zero _ (find?_rest_shorter found)
  have isLeftmost := (isFirstIn_of_find? solid found).isLeftmost (text.take position)
  rw [List.take_append_drop, List.length_take_of_le inside] at isLeftmost
  exact ⟨_, isLeftmost⟩

/-- A tag with braces behind a blank. -/
def bracedText : Text :=
  .of "x \x7b\x7b\x7b a \x7d\x7d\x7d"

/-- From the blank on, the leftmost tag is the one with braces. -/
theorem find?_drop_leftmost_bracedText :
    Delimiters.standard.AreSolid ∧ ∃ start,
      (Occurrence.mk [] (.of " ") (.of "\x7b\x7b\x7b a \x7d\x7d\x7d") ⟨.braced, .of "a"⟩
        []).IsLeftmost .standard bracedText 1 start := by
  have solid : Delimiters.standard.AreSolid := by decide
  exact ⟨solid, (find?_drop_leftmost solid bracedText 1).2 _ (by cbv)⟩

end Stencil.Tag
