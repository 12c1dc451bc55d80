import Stencil.Tag.Lemmas

/-!
# The next tag of a text

The next tag is the one that begins first. The spaces and tabs directly before it are kept apart
from the text before those, since they may turn out to be the indentation of a tag that has a line
to itself. `Tag.find?_splits` says that the four parts of an occurrence make up the text.
-/

namespace Stencil.Tag

/-- A tag where it stands in a text. -/
structure Occurrence where
  /-- The text before the tag, up to the blanks next to it. -/
  content : Text
  /-- The spaces and tabs directly before the tag. -/
  blank : Text
  /-- The tag as it is written, delimiters included. -/
  source : Text
  tag : Tag
  /-- The text after the tag. -/
  rest : Text
  deriving Repr

/-- The tag that a text begins with, apart from blanks before it. As many blanks as possible are
taken to stand before the tag. -/
def afterBlank? (delimiters : Delimiters) (text : Text) : Option Occurrence :=
  (Text.longestRun Text.isBlank (read? delimiters) text).map fun (blank, reading) =>
    ⟨[], blank, reading.source, reading.value, reading.rest⟩

/-- The first tag of a text. Where a blank stands before the text there is none at its start, since
it would have been found from the blank on. -/
def search (delimiters : Delimiters) (isBehindBlank : Bool) : Text → Option Occurrence
  | [] => if isBehindBlank then none else afterBlank? delimiters []
  | first :: remainder =>
    match if isBehindBlank then none else afterBlank? delimiters (first :: remainder) with
    | some occurrence => some occurrence
    | none => (search delimiters (Text.isBlank first) remainder).map fun occurrence =>
        { occurrence with content := first :: occurrence.content }

/-- The first tag of a text. -/
def find? (delimiters : Delimiters) (text : Text) : Option Occurrence :=
  search delimiters false text

/-- From a blank on a tag is found if it is found behind the blank. -/
theorem afterBlank?_of_blank {delimiters : Delimiters} {first : CodePoint} {rest : Text}
    (blank : Text.isBlank first = true) (absent : afterBlank? delimiters (first :: rest) = none) :
    afterBlank? delimiters rest = none := by
  simp only [afterBlank?, Option.map_eq_none_iff, Text.longestRun, blank, if_true] at absent ⊢
  split at absent
  · simp at absent
  · assumption

/-- The start of a text need not be searched if there is no tag at it. -/
theorem search_eq_find? {delimiters : Delimiters} {text : Text}
    (absent : afterBlank? delimiters text = none) :
    search delimiters true text = find? delimiters text := by
  cases text <;> simp [find?, search, absent]

/-- In an empty text a tag can only be empty itself. -/
theorem find?_nil (delimiters : Delimiters) : find? delimiters [] = afterBlank? delimiters [] := by
  simp [find?, search]

/-- The first tag of a text stands at its start, or else it is the first one behind that. -/
theorem find?_cons (delimiters : Delimiters) (first : CodePoint) (remainder : Text) :
    find? delimiters (first :: remainder) =
      match afterBlank? delimiters (first :: remainder) with
      | some occurrence => some occurrence
      | none => (find? delimiters remainder).map fun occurrence =>
          { occurrence with content := first :: occurrence.content } := by
  simp only [find?, search, Bool.false_eq_true, if_false]
  split
  · rfl
  · rename_i absent
    cases blank : Text.isBlank first with
    | false => rfl
    | true => rw [search_eq_find? (afterBlank?_of_blank blank absent), find?]

/-- A tag after blanks splits the text at both of its ends. -/
theorem afterBlank?_splits {delimiters : Delimiters} {text : Text} {occurrence : Occurrence}
    (found : afterBlank? delimiters text = some occurrence) :
    text = occurrence.blank ++ occurrence.source ++ occurrence.rest ∧
      occurrence.content = [] ∧ occurrence.source ≠ [] := by
  simp only [afterBlank?, Option.map_eq_some_iff] at found
  obtain ⟨⟨blank, reading⟩, run, rfl⟩ := found
  obtain ⟨start, rfl, _, read⟩ := Text.longestRun_splits run
  obtain ⟨splits, nonempty⟩ := read?_splits read
  simp only [Text.Reading.Splits] at splits
  simp [nonempty, splits]

/-- An occurrence splits the text into four parts, and the tag itself is not empty. -/
theorem find?_splits {delimiters : Delimiters} {text : Text} {occurrence : Occurrence}
    (found : find? delimiters text = some occurrence) :
    text = occurrence.content ++ occurrence.blank ++ occurrence.source ++ occurrence.rest ∧
      occurrence.source ≠ [] := by
  have atStart : ∀ {text : Text}, afterBlank? delimiters text = some occurrence →
      text = occurrence.content ++ occurrence.blank ++ occurrence.source ++ occurrence.rest ∧
        occurrence.source ≠ [] := by
    intro text here
    obtain ⟨splits, noContent, nonempty⟩ := afterBlank?_splits here
    exact ⟨by simpa [noContent] using splits, nonempty⟩
  induction text generalizing occurrence with
  | nil => exact atStart (find?_nil delimiters ▸ found)
  | cons first remainder inductionHypothesis =>
    rw [find?_cons] at found
    split at found
    · rename_i here
      obtain rfl := Option.some.inj found
      exact atStart here
    · simp only [Option.map_eq_some_iff] at found
      obtain ⟨later, laterFound, rfl⟩ := found
      obtain ⟨splits, nonempty⟩ := inductionHypothesis laterFound (fun here => by
        obtain ⟨splitsHere, noContent, nonemptyHere⟩ := afterBlank?_splits here
        exact ⟨by simpa [noContent] using splitsHere, nonemptyHere⟩)
      exact ⟨by simp [splits], nonempty⟩

/-- What follows a tag is shorter than the text that the tag was found in. -/
theorem find?_rest_shorter {delimiters : Delimiters} {text : Text} {occurrence : Occurrence}
    (found : find? delimiters text = some occurrence) :
    occurrence.rest.length < text.length := by
  obtain ⟨splits, nonempty⟩ := find?_splits found
  have positive := List.length_pos_iff.mpr nonempty
  rw [splits]
  simp only [List.length_append]
  omega

end Stencil.Tag
