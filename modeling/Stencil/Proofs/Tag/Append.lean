import Stencil.Proofs.Tag.Extent

/-!
# Tags with more text behind them

A tag that is closed in a text does not change when something is written behind the text. So if a
text ends a line, and something other than white space stands between all of its delimiters, then
its tags are the first ones of whatever begins with it (`Tag.find?_append`). The text that follows
the last of them only adds to what is in front of the next tag
(`Tag.find?_append_of_not_holds`).
-/

namespace Stencil

/-- Between an opening delimiter in a text and a closing one behind it stands something other than
white space. -/
def Delimiters.AreFilledIn (delimiters : Delimiters) (text : Text) : Prop :=
  ∀ before between behind,
    text = before ++ (delimiters.opening ++ (between ++ (delimiters.closing ++ behind))) →
      ∃ point ∈ between, Text.isSpace point = false

/-- What is true between delimiters in a text is true in an end of it. -/
theorem Delimiters.AreFilledIn.of_append {delimiters : Delimiters} {before text : Text}
    (filled : delimiters.AreFilledIn (before ++ text)) : delimiters.AreFilledIn text := by
  intro more between behind splits
  exact filled (before ++ more) between behind (by rw [splits, List.append_assoc])

/-- A text whose tags do not depend on what is written behind it. It ends a line, unless it is
empty, and something other than white space stands between its delimiters. -/
structure Text.IsSelfContained (text : Text) : Prop where
  ends : text = [] ∨ text.getLast? = some (.char '\n')
  filled : Delimiters.standard.AreFilledIn text

/-- A reading with more text behind what it was read from. -/
def Text.Reading.append {α : Type} (tail : Text) (reading : Text.Reading α) : Text.Reading α :=
  { reading with rest := reading.rest ++ tail }

/-- An end of a text ends as the text does. -/
theorem Text.getLast?_of_append {before text : Text} {last : CodePoint}
    (ends : (before ++ text).getLast? = some last) (nonempty : text ≠ []) :
    text.getLast? = some last := by
  rwa [List.getLast?_append, List.getLast?_eq_some_getLast nonempty, Option.some_or,
    ← List.getLast?_eq_some_getLast nonempty] at ends

/-- An end of a self-contained text is self-contained. -/
theorem Text.IsSelfContained.of_append {before text : Text}
    (contained : IsSelfContained (before ++ text)) : IsSelfContained text := by
  refine ⟨?_, contained.filled.of_append⟩
  rcases contained.ends with nothing | feed
  · exact .inl (List.append_eq_nil_iff.mp nothing).2
  · by_cases nonempty : text = []
    · exact .inl nonempty
    · exact .inr (getLast?_of_append feed nonempty)

/-- A self-contained text that is not empty ends with a line feed. -/
theorem Text.IsSelfContained.getLast? {text : Text} (contained : IsSelfContained text)
    (nonempty : text ≠ []) : text.getLast? = some (.char '\n') :=
  contained.ends.resolve_left nonempty

/-- A line feed is white space. -/
theorem Text.isSpace_of_getLast? {text : Text} (ends : text.getLast? = some (.char '\n')) :
    ∀ last ∈ text.getLast?, isSpace last = true := by
  intro last isLast
  obtain rfl := Option.some.inj (ends.symm.trans isLast)
  decide

namespace Tag

/-- An occurrence with more text behind the tag. -/
def Occurrence.append (tail : Text) (occurrence : Occurrence) : Occurrence :=
  { occurrence with rest := occurrence.rest ++ tail }

section Append

variable {text : Text}

/-- Between doubled braces a tag does not reach into a tail, if something stands between the first
closing delimiter and the tail. -/
theorem exists_rest_eq_append {between behind tail : Text}
    (clear : Text.IsClear Delimiters.standard.closing (Delimiters.standard.closing ++ behind)
      between)
    (filled : ∃ point ∈ between, Text.isSpace point = false) (nonempty : behind ≠ [])
    {reading : Text.Reading Tag}
    (read : read? .standard (Delimiters.standard.opening ++
      (between ++ (Delimiters.standard.closing ++ (behind ++ tail)))) = some reading) :
    ∃ left, reading.rest = left ++ tail := by
  have clearStill : Text.IsClear Delimiters.standard.closing
      (Delimiters.standard.closing ++ (behind ++ tail)) between := by
    rw [← List.append_assoc]
    exact clear.append (by simp) tail
  rcases read?_standard_reaches clearStill filled read with same | same
  · exact ⟨behind, same⟩
  · obtain ⟨point, behind, rfl⟩ := List.exists_cons_of_ne_nil nonempty
    exact ⟨behind, (List.cons.inj same).2.symm⟩

/-- What a text begins with that ends a line does not depend on what is written behind the text,
provided that an opening delimiter at its start is closed in the text. -/
theorem read?_append (ends : text.getLast? = some (.char '\n'))
    (filled : Delimiters.standard.AreFilledIn text)
    (closed : ∀ inside, text = Delimiters.standard.opening ++ inside →
      Text.holds Delimiters.standard.closing inside = true) (tail : Text) :
    read? .standard (text ++ tail) = (read? .standard text).map (Text.Reading.append tail) := by
  cases begins : Text.after? Delimiters.standard.opening text with
  | none =>
    have nonempty : text ≠ [] := by
      rintro rfl
      simp at ends
    have beginsNot := Text.after?_append_eq_none (by decide) nonempty
      (Text.isSpace_of_getLast? ends) begins tail
    simp [read?_eq, begins, beginsNot]
  | some inside =>
    obtain rfl := Text.after?_eq_some_iff.mp begins
    obtain ⟨between, behind, rfl, clear⟩ := Text.exists_first_of_holds (closed _ rfl)
    have something := filled [] between behind rfl
    have betweenNonempty : between ≠ [] := by
      rintro rfl
      simp at something
    have behindNonempty : behind ≠ [] := by
      rintro rfl
      have last : (Delimiters.standard.opening ++
          (between ++ (Delimiters.standard.closing ++ []))).getLast? = some (.char '\x7d') := by
        rw [← List.append_assoc, List.append_nil, List.getLast?_append]
        rfl
      rw [last] at ends
      exact absurd ends (by decide)
    -- A tag begins here, it ends before the tail, and so it is the one that is read without it.
    have begins : (read? .standard (Delimiters.standard.opening ++
        (between ++ (Delimiters.standard.closing ++ behind)))).isSome :=
      read?_isSome clear betweenNonempty
    obtain ⟨⟨tag, source, rest⟩, read⟩ :=
      Option.isSome_iff_exists.mp ((read?_isLocal .standard).extend tail begins)
    obtain ⟨left, rfl⟩ : ∃ left, rest = left ++ tail :=
      exists_rest_eq_append clear something behindNonempty
        (by simpa only [List.append_assoc] using read)
    rw [read, (read?_isLocal .standard).cut read]
    rfl

/-- A tag that begins a text is closed in it. -/
theorem exists_of_read? {delimiters : Delimiters} {reading : Text.Reading Tag}
    (read : read? delimiters text = some reading) :
    ∃ inside, text = delimiters.opening ++ inside ∧
      Text.holds delimiters.closing inside = true := by
  simp only [read?, Option.bind_eq_some_iff, Text.after?_eq_some_iff] at read
  obtain ⟨inside, rfl, read⟩ := read
  split at read
  · rename_i holds
    exact ⟨inside, rfl, holds⟩
  · simp at read

/-- An opening delimiter at the first tag of a text or in front of it has a closing one behind it,
if it is not that of the tag then the one that closes the tag. -/
theorem Occurrence.IsFirstIn.holds_closing {delimiters : Delimiters} {occurrence : Occurrence}
    (isFirst : occurrence.IsFirstIn delimiters text) {before inside : Text}
    (splits : text = before ++ (delimiters.opening ++ inside))
    (within : before.length ≤ (occurrence.content ++ occurrence.blank).length) :
    Text.holds delimiters.closing inside = true := by
  obtain ⟨interior, tagSplits, holds⟩ := exists_of_read? isFirst.reads
  have textSplits := isFirst.splits
  rw [tagSplits] at textSplits
  have ofTag : interior <:+ text :=
    ⟨occurrence.content ++ occurrence.blank ++ delimiters.opening, by
      rw [textSplits, List.append_assoc _ delimiters.opening]⟩
  have ofPlace : inside <:+ text :=
    ⟨before ++ delimiters.opening, by rw [splits, List.append_assoc]⟩
  have isSuffix : interior <:+ inside := by
    apply List.suffix_of_suffix_length_le ofTag ofPlace
    have lengths := congrArg List.length (splits.symm.trans textSplits)
    simp only [List.length_append] at lengths within
    omega
  obtain ⟨more, rfl⟩ := isSuffix
  exact Text.holds_append more holds

/-- The first tag of a self-contained text is the first one of whatever begins with the text. -/
theorem find?_append (contained : text.IsSelfContained) {occurrence : Occurrence}
    (found : find? .standard text = some occurrence) (tail : Text) :
    find? .standard (text ++ tail) = some (occurrence.append tail) := by
  have solid : Delimiters.standard.AreSolid := by decide
  have isFirst := isFirstIn_of_find? solid found
  have reads : ∀ before start, text = before ++ start → start ≠ [] →
      before.length ≤ (occurrence.content ++ occurrence.blank).length →
      read? .standard (start ++ tail) = (read? .standard start).map (Text.Reading.append tail) := by
    rintro before start rfl nonempty within
    have startContained := contained.of_append
    refine read?_append (startContained.getLast? nonempty) startContained.filled ?_ tail
    rintro inside rfl
    exact isFirst.holds_closing rfl within
  refine (find?_eq_some_iff solid).mpr ⟨?_, ?_, isFirst.blank_isBlank, isFirst.content_notBlank,
    ?_⟩
  · rw [isFirst.splits]
    simp [Occurrence.append]
  · have nonempty : occurrence.source ++ occurrence.rest ≠ [] :=
      List.append_ne_nil_of_left_ne_nil (find?_splits found).2 _
    have read := reads _ _ isFirst.splits nonempty (Nat.le_refl _)
    rw [isFirst.reads, List.append_assoc] at read
    exact read
  · intro before start splits (shorter : before.length <
      (occurrence.content ++ occurrence.blank).length)
    have longer : before.length < text.length := by
      rw [isFirst.splits, List.length_append]
      omega
    rcases List.append_eq_append_iff.mp splits with ⟨further, rfl, -⟩ | ⟨left, rfl, rfl⟩
    · rw [List.length_append] at longer
      omega
    · have nonempty : left ≠ [] := by
        rintro rfl
        simp at longer
      rw [reads before left rfl nonempty (Nat.le_of_lt shorter),
        isFirst.leftmost before left rfl shorter, Option.map_none]

/-- No tag begins in a text without an opening delimiter that ends a line, whatever is written
behind it. -/
theorem read?_append_of_not_holds {delimiters : Delimiters} (solid : delimiters.AreSolid)
    (ends : text = [] ∨ text.getLast? = some (.char '\n'))
    (absent : Text.holds delimiters.opening text = false) {before start : Text}
    (splits : text = before ++ start) (nonempty : start ≠ []) (tail : Text) :
    read? delimiters (start ++ tail) = none := by
  subst splits
  have feed : start.getLast? = some (.char '\n') := by
    rcases ends with nothing | feed
    · exact absurd (List.append_eq_nil_iff.mp nothing).2 nonempty
    · exact Text.getLast?_of_append feed nonempty
  have beginsNot : Text.after? delimiters.opening start = none := by
    cases begins : Text.after? delimiters.opening start with
    | none => rfl
    | some rest => simp [Text.holds_append before (Text.holds_of_after? begins)] at absent
  rw [read?_eq, Text.after?_append_eq_none solid.opening nonempty
    (Text.isSpace_of_getLast? feed) beginsNot tail]
  rfl

/-- Behind the end of a line, or behind nothing, what is in front of a tag still does not end in a
blank. -/
theorem Occurrence.prepend_notBlank {occurrence : Occurrence}
    (ends : text = [] ∨ text.getLast? = some (.char '\n'))
    (notBlank : ∀ point ∈ occurrence.content.getLast?, Text.isBlank point = false) :
    ∀ point ∈ (occurrence.prepend text).content.getLast?, Text.isBlank point = false := by
  intro last isLast
  simp only [Occurrence.prepend, List.getLast?_append] at isLast
  cases ofContent : occurrence.content.getLast? with
  | some point =>
    rw [ofContent] at isLast
    exact notBlank last (ofContent.trans isLast)
  | none =>
    rw [ofContent, Option.none_or] at isLast
    rcases ends with rfl | feed
    · simp at isLast
    · obtain rfl := Option.some.inj (feed.symm.trans isLast)
      decide

/-- A text without an opening delimiter that ends a line adds only to what is in front of the first
tag. -/
theorem find?_append_of_not_holds {delimiters : Delimiters} (solid : delimiters.AreSolid)
    (ends : text = [] ∨ text.getLast? = some (.char '\n'))
    (absent : Text.holds delimiters.opening text = false) (tail : Text) :
    find? delimiters (text ++ tail) = (find? delimiters tail).map (Occurrence.prepend text) := by
  -- A place in the two texts is one in the first, where no tag begins, or one in the second.
  have leftmost : ∀ before start, text ++ tail = before ++ start →
      read? delimiters start = none ∨
        ∃ further, before = text ++ further ∧ tail = further ++ start := by
    intro before start splits
    rcases List.append_eq_append_iff.mp splits with ⟨further, rfl, same⟩ | ⟨left, same, rfl⟩
    · exact .inr ⟨further, rfl, same⟩
    · cases left with
      | nil => exact .inr ⟨[], by simpa using same.symm, rfl⟩
      | cons point left =>
        exact .inl (read?_append_of_not_holds solid ends absent same (List.cons_ne_nil _ _) tail)
  cases found : find? delimiters tail with
  | none =>
    refine (find?_eq_none_iff solid).mpr fun before start splits => ?_
    rcases leftmost before start splits with nothing | ⟨further, -, same⟩
    · exact nothing
    · exact (find?_eq_none_iff solid).mp found further start same
  | some occurrence =>
    have isFirst := isFirstIn_of_find? solid found
    refine (find?_eq_some_iff solid).mpr ⟨?_, isFirst.reads, isFirst.blank_isBlank,
      Occurrence.prepend_notBlank ends isFirst.content_notBlank, ?_⟩
    · rw [isFirst.splits]
      simp [Occurrence.prepend]
    · intro before start splits shorter
      rcases leftmost before start splits with nothing | ⟨further, rfl, same⟩
      · exact nothing
      · refine isFirst.leftmost further start same ?_
        simp only [Occurrence.prepend, List.length_append] at shorter ⊢
        omega

end Append

end Tag

end Stencil
