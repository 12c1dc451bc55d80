import Stencil.Proofs.Tag.Extent

/-!
# Which closing delimiter ends a tag

No closing delimiter begins in the body of a tag, and none begins in white space. What stands
between the delimiters of a tag without brackets is white space, perhaps a marker, and then a text
in which none begins (`Tag.exists_of_read?_plain`). So a tag ends at the first closing delimiter
behind its opening one unless that one begins at the marker. This is the case exactly if the tag, as
it is written, has nothing but white space in front of that delimiter and goes on behind it
(`Tag.closing_isFirst_iff`).
-/

namespace Stencil

namespace Text

section IsClear

variable {piece rest : Text}

/-- A piece begins nowhere in two texts exactly if it does not begin in either of them. -/
theorem isClear_append_iff {first second : Text} :
    IsClear piece rest (first ++ second) ↔
      IsClear piece (second ++ rest) first ∧ IsClear piece rest second := by
  constructor
  · refine fun clear => ⟨fun before start splits nonempty => ?_, clear.of_append⟩
    rw [← List.append_assoc]
    refine clear before (start ++ second) (by rw [splits, List.append_assoc]) ?_
    exact List.append_ne_nil_of_left_ne_nil nonempty second
  · rintro ⟨clearFirst, clearSecond⟩ before start splits nonempty
    rcases List.append_eq_append_iff.mp splits with ⟨left, rfl, within⟩ | ⟨left, within, rfl⟩
    · exact clearSecond left start within nonempty
    · by_cases empty : left = []
      · subst empty
        exact clearSecond [] second rfl nonempty
      · rw [List.append_assoc]
        exact clearFirst before left within empty

/-- A piece begins nowhere in a text exactly if it begins neither at its first code point nor behind
that. -/
theorem isClear_cons_iff {first : CodePoint} {text : Text} :
    IsClear piece rest (first :: text) ↔
      after? piece (first :: (text ++ rest)) = none ∧ IsClear piece rest text := by
  constructor
  · exact fun clear => ⟨clear [] _ rfl (List.cons_ne_nil first text), clear.of_cons⟩
  · rintro ⟨here, clear⟩ before start splits nonempty
    cases before with
    | nil =>
      obtain rfl : first :: text = start := splits
      exact here
    | cons point before => exact clear before start (List.cons.inj splits).2 nonempty

/-- No solid piece begins in white space. -/
theorem isClear_of_isSpace {space : Text} (solid : piece.IsSolid)
    (spaces : ∀ point ∈ space, isSpace point = true) : IsClear piece rest space := by
  induction space with
  | nil => exact .nil
  | cons first space inductionHypothesis =>
    obtain ⟨nonempty, opaqueAll⟩ := solid
    obtain ⟨point, others, rfl⟩ := List.exists_cons_of_ne_nil nonempty
    have apart : point ≠ first := by
      rintro rfl
      simp [opaqueAll point List.mem_cons_self] at spaces
    rw [isClear_cons_iff]
    exact ⟨by simp [after?, apart],
      inductionHypothesis fun other there => spaces other (List.mem_cons_of_mem _ there)⟩

/-- Where a text with a piece behind it begins with something else and that piece, and goes on, the
piece begins in the text. -/
theorem not_isClear_of_append_eq {text before more : Text}
    (same : text ++ piece = before ++ (piece ++ more)) (nonempty : more ≠ []) :
    ¬ IsClear piece (piece ++ rest) text := by
  intro clear
  rcases List.append_eq_append_iff.mp same with ⟨further, rfl, tooLong⟩ | ⟨start, rfl, begins⟩
  · have lengths := congrArg List.length tooLong
    have positive := List.length_pos_iff.mpr nonempty
    simp only [List.length_append] at lengths
    omega
  · have startNonempty : start ≠ [] := by
      rintro rfl
      simp at begins
      exact nonempty begins
    have absent := clear before start rfl startNonempty
    rw [← List.append_assoc, ← begins, List.append_assoc, after?_append_self] at absent
    cases absent

/-- A piece that begins a text with that piece behind it is the beginning of the two, and they go on
behind it if the text is not empty. -/
theorem exists_of_after?_eq_some {text more : Text} (nonempty : text ≠ [])
    (begins : after? piece (text ++ (piece ++ rest)) = some more) :
    ∃ further, further ≠ [] ∧ text ++ piece = piece ++ further := by
  rw [after?_eq_some_iff, ← List.append_assoc] at begins
  obtain ⟨further, same⟩ : piece <+: text ++ piece :=
    List.prefix_of_prefix_length_le ⟨more, begins.symm⟩ (List.prefix_append _ rest) (by simp)
  refine ⟨further, ?_, same.symm⟩
  rintro rfl
  have lengths := congrArg List.length same
  have positive := List.length_pos_iff.mpr nonempty
  simp only [List.length_append, List.length_nil] at lengths
  omega

end IsClear

end Text

namespace Tag

/-! ## What stands between delimiters -/

section Between

variable {closing text : Text}

/-- White space and the closing delimiter are written as that. -/
theorem exists_of_closing?_eq_some {reading : Text.Reading Unit}
    (read : closing? closing text = some reading) :
    ∃ space, (∀ point ∈ space, Text.isSpace point = true) ∧ reading.source = space ++ closing := by
  obtain ⟨⟨space, ending⟩, run, rfl⟩ := Option.map_eq_some_iff.mp read
  obtain ⟨start, -, spaces, accepted⟩ := Text.longestRun_splits run
  obtain ⟨rest, -, rfl⟩ := Option.map_eq_some_iff.mp accepted
  exact ⟨space, spaces, rfl⟩

/-- A body, with the white space around it, is a text in which no closing delimiter begins. -/
theorem exists_of_body?_closing (solid : closing.IsSolid) {reading : Text.Reading Text}
    (read : body? closing (closing? closing) text = some reading) :
    ∃ inside, inside ≠ [] ∧ reading.source = inside ++ closing ∧
      Text.IsClear closing (closing ++ reading.rest) inside := by
  simp only [body?_eq_afterSpace, afterSpace, Option.map_eq_some_iff] at read
  obtain ⟨⟨space, inner⟩, run, rfl⟩ := read
  obtain ⟨start, -, spaces, accepted⟩ := Text.longestRun_splits run
  obtain ⟨⟨body, ending⟩, found, rfl⟩ := Option.map_eq_some_iff.mp accepted
  obtain ⟨rest, splits, nonempty, ended⟩ := Text.shortestBody_splits found
  obtain ⟨gap, gaps, source⟩ := exists_of_closing?_eq_some ended
  have restSplits : rest = gap ++ (closing ++ ending.rest) := by
    have faithful : rest = ending.source ++ ending.rest := closing?_faithful closing ended
    rw [faithful, source, List.append_assoc]
  have bodyClear := Text.shortestBody_isClear found splits
  rw [restSplits] at bodyClear
  refine ⟨space ++ (body ++ gap), by simp [nonempty], ?_, ?_⟩
  · simp [Text.Reading.after, Text.Reading.map, source]
  · exact Text.isClear_append_iff.mpr ⟨Text.isClear_of_isSpace solid spaces,
      Text.isClear_append_iff.mpr ⟨bodyClear, Text.isClear_of_isSpace solid gaps⟩⟩

/-- An interior without brackets is perhaps a marker, and a text in which no closing delimiter
begins. -/
theorem exists_of_marked?_eq_some (solid : closing.IsSolid) {reading : Text.Reading Tag}
    (read : marked? closing text = some reading) :
    ∃ marker inside, reading.value.form = .plain marker ∧ inside ≠ [] ∧
      reading.source = marker.toList ++ (inside ++ closing) ∧
      Text.IsClear closing (closing ++ reading.rest) inside := by
  have unmarked : unmarked? closing text = some reading →
      ∃ marker inside, reading.value.form = .plain marker ∧ inside ≠ [] ∧
        reading.source = marker.toList ++ (inside ++ closing) ∧
        Text.IsClear closing (closing ++ reading.rest) inside := by
    intro found
    obtain ⟨inner, bodyRead, rfl⟩ := Option.map_eq_some_iff.mp found
    obtain ⟨inside, nonempty, source, clear⟩ := exists_of_body?_closing solid bodyRead
    exact ⟨none, inside, rfl, nonempty, source, clear⟩
  cases text with
  | nil => exact unmarked read
  | cons first text =>
    rw [marked?_cons] at read
    split at read
    · exact unmarked read
    · unfold orElse at read
      split at read
      · rename_i marked
        have found := marked.trans read
        simp only [markedBy?, Tag.behind, if_true, Option.map_map,
          Option.map_eq_some_iff] at found
        obtain ⟨inner, bodyRead, rfl⟩ := found
        obtain ⟨inside, nonempty, source, clear⟩ := exists_of_body?_closing solid bodyRead
        exact ⟨some first, inside, rfl, nonempty, congrArg (first :: ·) source, clear⟩
      · exact unmarked read

end Between

variable {delimiters : Delimiters}

/-- A tag without brackets is its opening delimiter, white space, perhaps a marker, and then a text
in which no closing delimiter begins in front of the one that ends the tag. -/
theorem exists_of_read?_plain (solid : delimiters.AreSolid) {text : Text}
    {reading : Text.Reading Tag} {marker : Option CodePoint}
    (read : read? delimiters text = some reading) (plain : reading.value.form = .plain marker) :
    ∃ space inside, (∀ point ∈ space, Text.isSpace point = true) ∧ inside ≠ [] ∧
      reading.source =
        delimiters.opening ++ (space ++ (marker.toList ++ (inside ++ delimiters.closing))) ∧
      Text.IsClear delimiters.closing (delimiters.closing ++ reading.rest) inside := by
  rw [read?_eq, Option.bind_eq_some_iff] at read
  obtain ⟨interior, -, read⟩ := read
  obtain ⟨_, inner, rfl⟩ := Option.map_eq_some_iff.mp read
  obtain ⟨⟨space, tag⟩, run, rfl⟩ := Option.map_eq_some_iff.mp inner
  obtain ⟨start, -, spaces, found⟩ := Text.longestRun_splits run
  have plain : tag.value.form = .plain marker := plain
  have marked : marked? delimiters.closing start = some tag := by
    unfold interior? at found
    split at found
    · obtain rfl := Option.some.inj found
      cases plain
    · split at found
      · obtain rfl := Option.some.inj found
        cases plain
      · exact found
  obtain ⟨other, inside, form, nonempty, source, clear⟩ :=
    exists_of_marked?_eq_some solid.closing marked
  obtain rfl : other = marker := Tag.Form.plain.inj (form.symm.trans plain)
  exact ⟨space, inside, spaces, nonempty,
    congrArg (fun written => delimiters.opening ++ (space ++ written)) source, clear⟩

/-! ## The first closing delimiter -/

/-- A tag without brackets, wherever in a text it is found, ends at the first closing delimiter
behind its opening one, unless it begins with nothing but white space between the two and goes on
behind that closing delimiter. -/
theorem closing_isFirst_iff (solid : delimiters.AreSolid) (text : Text) (position : Nat)
    {occurrence : Occurrence} {marker : Option CodePoint}
    (found : find? delimiters (text.drop position) = some occurrence)
    (plain : occurrence.tag.form = .plain marker) :
    ∃ inside, inside ≠ [] ∧
      text.drop position = occurrence.content ++ occurrence.blank ++ (delimiters.opening ++
        (inside ++ (delimiters.closing ++ occurrence.rest))) ∧
      occurrence.source = delimiters.opening ++ (inside ++ delimiters.closing) ∧
      (Text.IsClear delimiters.closing (delimiters.closing ++ occurrence.rest) inside ↔
        ¬ ∃ space more, (∀ point ∈ space, Text.isSpace point = true) ∧ more ≠ [] ∧
          occurrence.source = delimiters.opening ++ (space ++ (delimiters.closing ++ more))) := by
  have isFirst := isFirstIn_of_find? solid found
  obtain ⟨space, inside, spaces, nonempty, source, clear⟩ :=
    exists_of_read?_plain solid isFirst.reads plain
  have source : occurrence.source = delimiters.opening ++
      (space ++ (marker.toList ++ inside) ++ delimiters.closing) := by
    simpa using source
  refine ⟨space ++ (marker.toList ++ inside), by simp [nonempty], ?_, source, ?_⟩
  · rw [isFirst.splits, source]
    simp only [List.append_assoc]
  constructor
  · rintro clearAll ⟨blank, more, -, goesOn, sourceToo⟩
    have same := List.append_cancel_left (source.symm.trans sourceToo)
    exact Text.not_isClear_of_append_eq same goesOn clearAll
  · intro nowhere
    refine Text.isClear_append_iff.mpr ⟨Text.isClear_of_isSpace solid.closing spaces, ?_⟩
    cases marker with
    | none => exact clear
    | some point =>
      refine Text.isClear_cons_iff.mpr ⟨?_, clear⟩
      cases begins : Text.after? delimiters.closing
          (point :: (inside ++ (delimiters.closing ++ occurrence.rest))) with
      | none => exact begins
      | some behind =>
        obtain ⟨more, goesOn, same⟩ :=
          Text.exists_of_after?_eq_some (List.cons_ne_nil point inside) begins
        refine absurd ⟨space, more, spaces, goesOn, ?_⟩ nowhere
        rw [source, ← same, List.append_assoc]
        rfl

/-- A tag with a letter in it, and one more closing delimiter behind it. -/
def letterText : Text :=
  .of "x\x7b\x7ba\x7d\x7d\x7d\x7d"

/-- The tag of a letter ends at the first closing delimiter. -/
theorem closing_isFirst_iff_letterText :
    Delimiters.standard.AreSolid ∧
      find? .standard (letterText.drop 1) = some ⟨[], [], .of "\x7b\x7ba\x7d\x7d",
        ⟨.plain none, .of "a"⟩, Delimiters.standard.closing⟩ ∧
      Text.IsClear Delimiters.standard.closing
        (Delimiters.standard.closing ++ Delimiters.standard.closing) (.of "a") := by
  have solid : Delimiters.standard.AreSolid := by
    decide
  have found : find? .standard (letterText.drop 1) = some ⟨[], [], .of "\x7b\x7ba\x7d\x7d",
      ⟨.plain none, .of "a"⟩, Delimiters.standard.closing⟩ := by
    cbv
  obtain ⟨inside, -, -, source, isFirst⟩ := closing_isFirst_iff solid letterText 1 found rfl
  have written : Delimiters.standard.opening ++ (Text.of "a" ++ Delimiters.standard.closing) =
      Delimiters.standard.opening ++ (inside ++ Delimiters.standard.closing) :=
    source
  have isLetter : inside = Text.of "a" :=
    (List.append_cancel_right (List.append_cancel_left written)).symm
  refine ⟨solid, found, isLetter ▸ isFirst.mpr ?_⟩
  rintro ⟨space, more, spaces, -, begins⟩
  have begins : Delimiters.standard.opening ++ (.char 'a' :: Delimiters.standard.closing) =
      Delimiters.standard.opening ++ (space ++ (Delimiters.standard.closing ++ more)) :=
    begins
  cases space with
  | nil =>
    obtain ⟨letter, -⟩ := List.cons.inj (List.append_cancel_left begins)
    exact absurd letter (by decide)
  | cons point space =>
    obtain ⟨rfl, -⟩ := List.cons.inj (List.append_cancel_left begins)
    exact absurd (spaces _ List.mem_cons_self) (by decide)

/-- An opening delimiter, a closing one directly behind it, and another tag. -/
def swallowingText : Text :=
  .of "\x7b\x7b\x7d\x7d\x7b\x7ba\x7d\x7d"

/-- Where nothing stands between an opening delimiter and a closing one, the closing one begins with
the marker of a tag that goes on to the next closing delimiter. -/
theorem closing_isNotFirst :
    find? .standard swallowingText = some ⟨[], [], swallowingText,
        ⟨.plain (some (.char '\x7d')), .of "\x7d\x7b\x7ba"⟩, []⟩ ∧
      swallowingText = Delimiters.standard.opening ++
        (Text.of "\x7d\x7d\x7b\x7ba" ++ Delimiters.standard.closing) ∧
      ¬ Text.IsClear Delimiters.standard.closing (Delimiters.standard.closing ++ [])
        (Text.of "\x7d\x7d\x7b\x7ba") := by
  refine ⟨by cbv, by decide, fun clear => ?_⟩
  have absent := clear [] _ rfl (by decide)
  exact absurd absent (by decide)

end Tag

end Stencil
