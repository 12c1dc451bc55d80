import Stencil.Proofs.Tag.Locality
import Stencil.Tag.Occurrence

/-!
# The first tag of a text

A solid delimiter is not empty and has no white space in it. Between solid delimiters a tag neither
begins nor ends with white space, so the first tag of a text is the one that begins leftmost
(`Tag.find?_eq_some_iff`), with all blanks in front of it kept apart. Three laws follow:

- white space in front of a text is no part of a tag (`find?_cons_of_isSpace`),
- a tag that ends before some tail is found without the tail (`find?_cut`), and
- in front of the first tag there is no other (`find?_eq_none_of_append`).
-/

namespace Stencil

/-! ## Solid delimiters -/

/-- A text that is not empty and has no white space in it. -/
def Text.IsSolid (text : Text) : Prop :=
  text ≠ [] ∧ ∀ point ∈ text, Text.isSpace point = false

instance (text : Text) : Decidable text.IsSolid :=
  inferInstanceAs (Decidable (_ ∧ _))

/-- Words are solid. -/
theorem Text.isSolid_of_mem_words {text word : Text} (member : word ∈ Text.words text) :
    word.IsSolid := by
  induction text generalizing word with
  | nil => simp [words] at member
  | cons first rest inductionHypothesis =>
    unfold words at member
    split at member
    · exact inductionHypothesis member
    · rename_i solid
      have alone : Text.IsSolid [first] := ⟨by simp, by simpa using solid⟩
      split at member
      · exact List.mem_singleton.mp member ▸ alone
      · split at member
        · rcases List.mem_cons.mp member with rfl | later
          · exact alone
          · exact inductionHypothesis later
        · split at member
          · exact List.mem_singleton.mp member ▸ alone
          · rename_i start others split
            rw [split] at inductionHypothesis
            rcases List.mem_cons.mp member with rfl | later
            · have startSolid := (inductionHypothesis List.mem_cons_self).2
              refine ⟨by simp, fun point inside => ?_⟩
              rcases List.mem_cons.mp inside with rfl | further
              · simpa using solid
              · exact startSolid point further
            · exact inductionHypothesis (List.mem_cons_of_mem _ later)

/-- Delimiters that are not empty and have no white space in them. -/
structure Delimiters.AreSolid (delimiters : Delimiters) : Prop where
  opening : delimiters.opening.IsSolid
  closing : delimiters.closing.IsSolid

instance (delimiters : Delimiters) : Decidable delimiters.AreSolid :=
  decidable_of_iff (delimiters.opening.IsSolid ∧ delimiters.closing.IsSolid)
    ⟨fun ⟨opening, closing⟩ => ⟨opening, closing⟩, fun solid => ⟨solid.opening, solid.closing⟩⟩

namespace Tag

variable {delimiters : Delimiters}

/-- No tag between solid delimiters begins with white space. -/
theorem read?_cons_of_isSpace (solid : delimiters.AreSolid) {point : CodePoint} {text : Text}
    (space : Text.isSpace point = true) : read? delimiters (point :: text) = none := by
  obtain ⟨nonempty, opaqueAll⟩ := solid.opening
  obtain ⟨first, rest, opening⟩ := List.exists_cons_of_ne_nil nonempty
  have apart : first ≠ point := by
    rintro rfl
    simp [opaqueAll first (by simp [opening])] at space
  simp [read?, opening, Text.after?, apart]

/-- No tag between solid delimiters is empty. -/
theorem read?_nil (solid : delimiters.AreSolid) : read? delimiters [] = none := by
  obtain ⟨first, rest, opening⟩ := List.exists_cons_of_ne_nil solid.opening.1
  simp [read?, opening, Text.after?]

/-- A tag between solid delimiters does not end with white space. -/
theorem source_getLast?_of_read? (solid : delimiters.AreSolid) {text : Text}
    {reading : Text.Reading Tag} (read : read? delimiters text = some reading) :
    ∃ last, reading.source.getLast? = some last ∧ Text.isSpace last = false := by
  obtain ⟨before, source⟩ := (read?_isLocal delimiters).closes read
  obtain ⟨nonempty, opaqueAll⟩ := solid.closing
  refine ⟨delimiters.closing.getLast nonempty, ?_, opaqueAll _ (List.getLast_mem nonempty)⟩
  rw [← source, List.getLast?_append, List.getLast?_eq_some_getLast nonempty, Option.some_or]

/-! ## Leftmost tags -/

/-- There are only blanks directly before a tag, whatever the delimiters are. -/
theorem isBlank_of_find? {text : Text} {occurrence : Occurrence}
    (found : find? delimiters text = some occurrence) :
    ∀ point ∈ occurrence.blank, Text.isBlank point = true := by
  have atStart : ∀ {text : Text} {occurrence : Occurrence},
      afterBlank? delimiters text = some occurrence →
        ∀ point ∈ occurrence.blank, Text.isBlank point = true := by
    intro text occurrence here
    obtain ⟨⟨blank, reading⟩, run, rfl⟩ := Option.map_eq_some_iff.mp here
    obtain ⟨_, _, blanks, _⟩ := Text.longestRun_splits run
    exact blanks
  induction text generalizing occurrence with
  | nil => exact atStart (find?_nil delimiters ▸ found)
  | cons first remainder inductionHypothesis =>
    rw [find?_cons] at found
    split at found
    · rename_i here
      obtain rfl := Option.some.inj found
      exact atStart here
    · obtain ⟨later, laterFound, rfl⟩ := Option.map_eq_some_iff.mp found
      exact @inductionHypothesis later laterFound

/-- An occurrence that splits a text at the leftmost place where a tag begins. -/
structure Occurrence.IsFirstIn (delimiters : Delimiters) (text : Text) (occurrence : Occurrence) :
    Prop where
  splits : text = occurrence.content ++ occurrence.blank ++ (occurrence.source ++ occurrence.rest)
  reads : read? delimiters (occurrence.source ++ occurrence.rest) =
    some ⟨occurrence.tag, occurrence.source, occurrence.rest⟩
  blank_isBlank : ∀ point ∈ occurrence.blank, Text.isBlank point = true
  content_notBlank : ∀ point ∈ occurrence.content.getLast?, Text.isBlank point = false
  leftmost : ∀ before start, text = before ++ start →
    before.length < (occurrence.content ++ occurrence.blank).length →
    read? delimiters start = none

/-- A tag behind blanks is the first one of the text that the blanks begin. -/
theorem isFirstIn_of_afterBlank? (solid : delimiters.AreSolid) {text : Text}
    {occurrence : Occurrence} (found : afterBlank? delimiters text = some occurrence) :
    occurrence.IsFirstIn delimiters text := by
  simp only [afterBlank?, Option.map_eq_some_iff] at found
  obtain ⟨⟨blank, reading⟩, run, rfl⟩ := found
  obtain ⟨start, rfl, blanks, read⟩ := Text.longestRun_splits run
  obtain rfl : start = reading.source ++ reading.rest := (read?_splits read).1
  refine ⟨by simp, by simpa using read, blanks, by simp, ?_⟩
  intro before start splits shorter
  simp only [List.nil_append] at shorter
  obtain ⟨further, isBlank⟩ : before <+: blank :=
    List.prefix_of_prefix_length_le ⟨start, splits.symm⟩ (List.prefix_append blank _)
      (Nat.le_of_lt shorter)
  cases further with
  | nil =>
    rw [← isBlank] at shorter
    simp at shorter
  | cons point further =>
    rw [← isBlank, List.append_assoc] at splits
    obtain rfl := List.append_cancel_left splits
    have space := Text.isSpace_of_isBlank (blanks point (by simp [← isBlank]))
    exact read?_cons_of_isSpace solid space

/-- Where no tag stands behind blanks, none stands at the place itself. -/
theorem read?_eq_none_of_afterBlank? {text : Text} (absent : afterBlank? delimiters text = none) :
    read? delimiters text = none := by
  cases read : read? delimiters text with
  | none => rfl
  | some reading =>
    have found : (Text.longestRun Text.isBlank (read? delimiters) text).isSome :=
      longestRun_isSome (by simp [read])
    simp [Option.map_eq_none_iff.mp absent] at found

/-- Without text before the blanks, the first tag is the one behind blanks. -/
theorem afterBlank?_of_find? {text : Text} {occurrence : Occurrence}
    (found : find? delimiters text = some occurrence) (bare : occurrence.content = []) :
    afterBlank? delimiters text = some occurrence := by
  cases text with
  | nil => exact find?_nil delimiters ▸ found
  | cons first remainder =>
    rw [find?_cons] at found
    split at found
    · rename_i here
      exact here.trans found
    · obtain ⟨later, -, rfl⟩ := Option.map_eq_some_iff.mp found
      simp at bare

/-- The search finds the leftmost tag. -/
theorem isFirstIn_of_find? (solid : delimiters.AreSolid) {text : Text} {occurrence : Occurrence}
    (found : find? delimiters text = some occurrence) : occurrence.IsFirstIn delimiters text := by
  induction text generalizing occurrence with
  | nil => exact isFirstIn_of_afterBlank? solid (find?_nil delimiters ▸ found)
  | cons first remainder inductionHypothesis =>
    rw [find?_cons] at found
    split at found
    · rename_i here
      exact isFirstIn_of_afterBlank? solid (here.trans found)
    · rename_i absent
      obtain ⟨later, laterFound, rfl⟩ := Option.map_eq_some_iff.mp found
      have isFirst := inductionHypothesis laterFound
      refine ⟨by simp [isFirst.splits], isFirst.reads, isFirst.blank_isBlank, ?_, ?_⟩
      · intro last isLast
        by_cases bare : later.content = []
        · obtain rfl : first = last := by simpa [bare] using isLast
          cases blank : Text.isBlank first with
          | false => rfl
          | true =>
            have further := afterBlank?_of_blank blank absent
            simp [afterBlank?_of_find? laterFound bare] at further
        · rw [List.getLast?_cons, List.getLast?_eq_some_getLast bare] at isLast
          exact isFirst.content_notBlank last (by
            rw [List.getLast?_eq_some_getLast bare]
            simpa using isLast)
      · intro before start splits shorter
        cases before with
        | nil =>
          obtain rfl : first :: remainder = start := splits
          exact read?_eq_none_of_afterBlank? absent
        | cons point before =>
          obtain ⟨-, splitsLater⟩ := List.cons.inj splits
          exact isFirst.leftmost before start splitsLater (by simpa using shorter)

/-- No tag is found exactly where none begins. -/
theorem find?_eq_none_iff (solid : delimiters.AreSolid) {text : Text} :
    find? delimiters text = none ↔
      ∀ before start, text = before ++ start → read? delimiters start = none := by
  constructor
  · intro absent before start splits
    induction before generalizing text with
    | nil =>
      obtain rfl : text = start := splits
      cases text with
      | nil => exact read?_nil solid
      | cons first remainder =>
        rw [find?_cons] at absent
        split at absent
        · simp at absent
        · exact read?_eq_none_of_afterBlank? ‹_›
    | cons first before inductionHypothesis =>
      subst splits
      rw [List.cons_append, find?_cons] at absent
      split at absent
      · simp at absent
      · exact inductionHypothesis (Option.map_eq_none_iff.mp absent) rfl
  · intro nowhere
    cases found : find? delimiters text with
    | none => rfl
    | some occurrence =>
      have isFirst := isFirstIn_of_find? solid found
      have read := nowhere _ _ isFirst.splits
      rw [isFirst.reads] at read
      simp at read

/-- Blanks are told apart from the text before them, which does not end with one. -/
theorem append_blank_inj {first second firstBlank secondBlank : Text}
    (same : first ++ firstBlank = second ++ secondBlank)
    (firstBlanks : ∀ point ∈ firstBlank, Text.isBlank point = true)
    (secondBlanks : ∀ point ∈ secondBlank, Text.isBlank point = true)
    (firstEnds : ∀ point ∈ first.getLast?, Text.isBlank point = false)
    (secondEnds : ∀ point ∈ second.getLast?, Text.isBlank point = false) :
    first = second ∧ firstBlank = secondBlank := by
  rcases List.append_eq_append_iff.mp same with ⟨between, rfl, rfl⟩ | ⟨between, rfl, rfl⟩
  · cases isLast : between.getLast? with
    | none => simp [List.getLast?_eq_none_iff.mp isLast]
    | some last =>
      have blank := firstBlanks last (by simp [List.mem_of_getLast? isLast])
      simp [secondEnds last (by simp [List.getLast?_append, isLast])] at blank
  · cases isLast : between.getLast? with
    | none => simp [List.getLast?_eq_none_iff.mp isLast]
    | some last =>
      have blank := secondBlanks last (by simp [List.mem_of_getLast? isLast])
      simp [firstEnds last (by simp [List.getLast?_append, isLast])] at blank

/-- The leftmost tag of a text is one and the same. -/
theorem Occurrence.IsFirstIn.unique {text : Text} {first second : Occurrence}
    (isFirst : first.IsFirstIn delimiters text) (isSecond : second.IsFirstIn delimiters text) :
    first = second := by
  have notBefore : ∀ {left right : Occurrence}, left.IsFirstIn delimiters text →
      right.IsFirstIn delimiters text →
      ¬ (left.content ++ left.blank).length < (right.content ++ right.blank).length := by
    intro left right isLeft isRight shorter
    have read := isRight.leftmost _ _ isLeft.splits shorter
    rw [isLeft.reads] at read
    simp at read
  have lengths : (first.content ++ first.blank).length = (second.content ++ second.blank).length :=
    Nat.le_antisymm (Nat.le_of_not_lt (notBefore isSecond isFirst))
      (Nat.le_of_not_lt (notBefore isFirst isSecond))
  obtain ⟨before, tags⟩ := List.append_inj (isFirst.splits.symm.trans isSecond.splits) lengths
  obtain ⟨content, blank⟩ := append_blank_inj before isFirst.blank_isBlank isSecond.blank_isBlank
    isFirst.content_notBlank isSecond.content_notBlank
  have readings := isFirst.reads
  rw [tags, isSecond.reads] at readings
  obtain ⟨tag, source, rest⟩ := Text.Reading.mk.inj (Option.some.inj readings)
  cases first
  cases second
  simp_all

/-- What the search finds is exactly the leftmost tag. -/
theorem find?_eq_some_iff (solid : delimiters.AreSolid) {text : Text} {occurrence : Occurrence} :
    find? delimiters text = some occurrence ↔ occurrence.IsFirstIn delimiters text := by
  constructor
  · exact isFirstIn_of_find? solid
  · intro isFirst
    cases found : find? delimiters text with
    | none =>
      have read := (find?_eq_none_iff solid).mp found _ _ isFirst.splits
      rw [isFirst.reads] at read
      simp at read
    | some other => rw [(isFirstIn_of_find? solid found).unique isFirst]

/-! ## Parts of a text -/

/-- An occurrence with more text before it. -/
def Occurrence.prepend (before : Text) (occurrence : Occurrence) : Occurrence :=
  { occurrence with content := before ++ occurrence.content }

/-- White space that is no blank is no part of a tag that begins behind it. -/
theorem find?_cons_of_isSpace (solid : delimiters.AreSolid) {point : CodePoint} {text : Text}
    (space : Text.isSpace point = true) (notBlank : Text.isBlank point = false) :
    find? delimiters (point :: text) =
      (find? delimiters text).map (Occurrence.prepend [point]) := by
  have absent : afterBlank? delimiters (point :: text) = none := by
    simp [afterBlank?, Text.longestRun, notBlank, read?_cons_of_isSpace solid space]
  rw [find?_cons, absent]
  rfl

/-- A tag that ends before some tail is found without the tail. -/
theorem find?_cut (solid : delimiters.AreSolid) {text tail rest : Text} {occurrence : Occurrence}
    (found : find? delimiters (text ++ tail) = some occurrence)
    (ends : occurrence.rest = rest ++ tail) :
    find? delimiters text = some { occurrence with rest := rest } := by
  have isFirst := isFirstIn_of_find? solid found
  have isLocal := read?_isLocal delimiters
  have reads := isFirst.reads
  rw [ends, ← List.append_assoc] at reads
  refine (find?_eq_some_iff solid).mpr ⟨?_, isLocal.cut reads, isFirst.blank_isBlank,
    isFirst.content_notBlank, ?_⟩
  · have splits := isFirst.splits
    rw [ends, ← List.append_assoc, ← List.append_assoc] at splits
    rw [List.append_cancel_right splits, List.append_assoc]
  · intro before start splits shorter
    have absent := isFirst.leftmost before (start ++ tail) (by simp [splits]) shorter
    exact isLocal.eq_none_of_append absent

/-- In front of the first tag there is no other, even if that is cut off. -/
theorem find?_eq_none_of_append (solid : delimiters.AreSolid) {text tail : Text}
    {occurrence : Occurrence} (found : find? delimiters (text ++ tail) = some occurrence)
    (before : text.length ≤ (occurrence.content ++ occurrence.blank).length) :
    find? delimiters text = none := by
  rw [find?_eq_none_iff solid]
  intro earlier start splits
  cases start with
  | nil => exact read?_nil solid
  | cons point start =>
    have shorter : earlier.length < (occurrence.content ++ occurrence.blank).length := by
      have lengths := congrArg List.length splits
      simp only [List.length_append, List.length_cons] at lengths before ⊢
      omega
    have absent := (isFirstIn_of_find? solid found).leftmost earlier (point :: start ++ tail)
      (by simp [splits]) shorter
    exact (read?_isLocal delimiters).eq_none_of_append absent

end Tag

end Stencil
