import Stencil.Proofs.Tag.Search

/-!
# How far a tag reaches

A tag ends at the first closing delimiter behind its opening one, provided that something other than
white space stands between the two (`Tag.read?_reaches`). There is one exception. A bracket in front
of the closing delimiter may look like the beginning of one, so that the tag ends a little later
(`Tag.Reaches`); between doubled braces that is one brace later (`Tag.read?_standard_reaches`).

Conversely, wherever something stands between an opening delimiter and the first closing one behind
it, a tag begins (`Tag.read?_isSome`).
-/

namespace Stencil

namespace Text

/-! ## First occurrences -/

/-- A text that begins with a piece begins with it. -/
@[simp] theorem after?_append_self (piece rest : Text) : after? piece (piece ++ rest) = some rest :=
  after?_eq_some_iff.mpr rfl

/-- In a text with some rest behind it, no occurrence of a piece begins. -/
def IsClear (piece rest text : Text) : Prop :=
  ∀ before start, text = before ++ start → start ≠ [] → after? piece (start ++ rest) = none

section IsClear

variable {piece rest text : Text}

/-- In an empty text nothing begins. -/
theorem IsClear.nil : IsClear piece rest [] := by
  intro before start splits nonempty
  exact absurd (List.append_eq_nil_iff.mp splits.symm).2 nonempty

/-- What does not begin in a text does not begin in an end of it. -/
theorem IsClear.of_append {before : Text} (clear : IsClear piece rest (before ++ text)) :
    IsClear piece rest text := by
  intro more start splits nonempty
  exact clear (before ++ more) start (by rw [splits, List.append_assoc]) nonempty

/-- What does not begin in a text does not begin behind its first code point. -/
theorem IsClear.of_cons {first : CodePoint} (clear : IsClear piece rest (first :: text)) :
    IsClear piece rest text := by
  intro before start splits nonempty
  exact clear (first :: before) start (congrArg (first :: ·) splits) nonempty

/-- A piece that occurs in a text has a first occurrence. -/
theorem exists_first_of_holds (occurs : holds piece text = true) :
    ∃ before behind, text = before ++ (piece ++ behind) ∧
      IsClear piece (piece ++ behind) before := by
  induction text with
  | nil =>
    obtain ⟨behind, begins⟩ := Option.isSome_iff_exists.mp occurs
    exact ⟨[], behind, (after?_eq_some_iff.mp begins : [] = piece ++ behind), .nil⟩
  | cons first text inductionHypothesis =>
    cases begins : after? piece (first :: text) with
    | some behind =>
      exact ⟨[], behind, (after?_eq_some_iff.mp begins : first :: text = piece ++ behind), .nil⟩
    | none =>
      obtain ⟨before, behind, rfl, clear⟩ :=
        inductionHypothesis (by simpa [holds, begins] using occurs)
      refine ⟨first :: before, behind, rfl, fun more start splits nonempty => ?_⟩
      cases more with
      | nil =>
        obtain rfl : first :: before = start := splits
        exact begins
      | cons point more => exact clear more start (List.cons.inj splits).2 nonempty

/-- No occurrence of a piece is before the first one. -/
theorem IsClear.isFirst {behind other beyond : Text} (clear : IsClear piece (piece ++ behind) text)
    (same : text ++ (piece ++ behind) = other ++ (piece ++ beyond)) :
    ∃ between, other = text ++ between ∧ piece ++ behind = between ++ (piece ++ beyond) := by
  rcases List.append_eq_append_iff.mp same with ⟨between, rfl, left⟩ | ⟨between, rfl, left⟩
  · exact ⟨between, rfl, left⟩
  · cases between with
    | nil => exact ⟨[], by simp, left.symm⟩
    | cons point between =>
      have begins : after? piece (point :: between ++ (piece ++ behind)) = some beyond :=
        after?_eq_some_iff.mpr left.symm
      rw [clear other _ rfl (List.cons_ne_nil point between)] at begins
      simp at begins

/-- White space in front of a text stops before the first solid piece in it. -/
theorem exists_of_append_eq_space_append {behind space start : Text} (solid : piece.IsSolid)
    (spaces : ∀ point ∈ space, isSpace point = true)
    (same : text ++ (piece ++ behind) = space ++ start) :
    ∃ left, text = space ++ left ∧ start = left ++ (piece ++ behind) := by
  rcases List.append_eq_append_iff.mp same with ⟨further, rfl, left⟩ | ⟨left, rfl, startEq⟩
  · cases further with
    | nil => exact ⟨[], by simp, left.symm⟩
    | cons point further =>
      obtain ⟨nonempty, opaqueAll⟩ := solid
      obtain ⟨first, others, rfl⟩ := List.exists_cons_of_ne_nil nonempty
      obtain ⟨rfl, -⟩ := List.cons.inj left
      have space := spaces first (by simp)
      simp [opaqueAll first (by simp)] at space
  · exact ⟨left, rfl, startEq⟩

end IsClear

/-- What does not begin in a text does not begin there with more text behind the rest. -/
theorem IsClear.append {piece rest text : Text} (clear : IsClear piece rest text)
    (enough : piece.length ≤ rest.length) (tail : Text) : IsClear piece (rest ++ tail) text := by
  intro before start splits nonempty
  rw [← List.append_assoc]
  cases begins : after? piece (start ++ rest ++ tail) with
  | none => rfl
  | some beyond =>
    have within : piece.length ≤ (start ++ rest).length := by
      rw [List.length_append]
      omega
    have here := after?_isSome_of_append within (Option.isSome_iff_exists.mpr ⟨beyond, begins⟩)
    rw [clear before start splits nonempty] at here
    simp at here

/-- A solid piece does not begin in a text that ends with white space and go on behind it. -/
theorem after?_append_eq_none {piece text : Text} (solid : piece.IsSolid)
    (nonempty : text ≠ []) (ends : ∀ last ∈ text.getLast?, isSpace last = true)
    (absent : after? piece text = none) (tail : Text) : after? piece (text ++ tail) = none := by
  cases begins : after? piece (text ++ tail) with
  | none => rfl
  | some rest =>
    rcases List.append_eq_append_iff.mp (after?_eq_some_iff.mp begins) with
      ⟨further, isPiece, -⟩ | ⟨further, rfl, -⟩
    · -- The last code point of the text would be one of the piece.
      have isLast := List.getLast?_eq_some_getLast nonempty
      have member : text.getLast nonempty ∈ piece := by
        rw [isPiece]
        exact List.mem_append_left _ (List.getLast_mem nonempty)
      have space := ends _ isLast
      rw [solid.2 _ member] at space
      simp at space
    · rw [after?_append_self] at absent
      simp at absent

/-- A shortest body stops before the first closing text. -/
theorem shortestBody_isClear {α : Type} {closing text body rest : Text}
    {accept : Text → Option α} {result : α}
    (found : shortestBody closing accept text = some (body, result))
    (splits : text = body ++ rest) : IsClear closing rest body := by
  induction text generalizing body with
  | nil => simp [shortestBody] at found
  | cons first text inductionHypothesis =>
    simp only [shortestBody] at found
    split at found
    · simp at found
    · rename_i opensBody
      have begins : after? closing (first :: text) = none := by simpa using opensBody
      cases accepted : accept text with
      | some value =>
        simp only [accepted, Option.some.injEq, Prod.mk.injEq] at found
        obtain ⟨rfl, rfl⟩ := found
        intro before start isBody nonempty
        obtain ⟨-, rfl⟩ : before = [] ∧ start = [first] := by
          cases before with
          | nil => exact ⟨rfl, isBody.symm⟩
          | cons point before =>
            obtain ⟨-, nothing⟩ := List.cons.inj isBody
            exact absurd (List.append_eq_nil_iff.mp nothing.symm).2 nonempty
        rwa [← splits]
      | none =>
        simp only [accepted, Option.map_eq_some_iff, Prod.mk.injEq] at found
        obtain ⟨⟨shorter, value⟩, further, rfl, rfl⟩ := found
        obtain ⟨-, splitsLater⟩ := List.cons.inj splits
        have clear := inductionHypothesis further splitsLater
        intro before start isBody nonempty
        cases before with
        | nil =>
          obtain rfl : first :: shorter = start := isBody
          rwa [← splits]
        | cons point before => exact clear before start (List.cons.inj isBody).2 nonempty

end Text

namespace Tag

/-! ## Where a tag ends -/

section Reaches

variable {closing text behind : Text}

/-- What is read up to a closing delimiter with some text behind it reaches to this text, or else
it takes the beginning of the delimiter for a bracket. -/
def Reaches (closing behind rest : Text) : Prop :=
  rest = behind ∨ ∃ bracket space, (∀ point ∈ space, Text.isSpace point = true) ∧
    (bracket = .char '=' ∨ bracket = .char '\x7d') ∧
    closing ++ behind = bracket :: (space ++ (closing ++ rest))

/-- White space and the closing delimiter reach to what is behind the first one. -/
theorem closing?_reaches (solid : closing.IsSolid)
    (clear : Text.IsClear closing (closing ++ behind) text) {reading : Text.Reading Unit}
    (read : closing? closing (text ++ (closing ++ behind)) = some reading) :
    reading.rest = behind := by
  simp only [closing?, afterSpace, Option.map_eq_some_iff] at read
  obtain ⟨⟨space, ending⟩, run, rfl⟩ := read
  obtain ⟨start, splits, spaces, accepted⟩ := Text.longestRun_splits run
  obtain ⟨left, rfl, startEq⟩ := Text.exists_of_append_eq_space_append solid spaces splits
  obtain ⟨rest, begins, rfl⟩ := Option.map_eq_some_iff.mp accepted
  rw [Text.after?_eq_some_iff, startEq] at begins
  have atStart : left ++ (closing ++ behind) = [] ++ (closing ++ rest) := begins
  obtain ⟨between, isStart, same⟩ := clear.of_append.isFirst atStart
  obtain rfl : between = [] := (List.append_eq_nil_iff.mp isStart.symm).2
  exact (List.append_cancel_left same).symm

/-- A body stops before the first closing delimiter, and what ends it is read from there. -/
theorem exists_of_body?_eq_some (solid : closing.IsSolid)
    {accept : Text → Option (Text.Reading Unit)} {reading : Text.Reading Text}
    (read : body? closing accept (text ++ (closing ++ behind)) = some reading) :
    ∃ body left ending, text = body ++ left ∧ accept (left ++ (closing ++ behind)) = some ending ∧
      reading.rest = ending.rest := by
  simp only [body?_eq_afterSpace, afterSpace, Option.map_eq_some_iff] at read
  obtain ⟨⟨space, inner⟩, run, rfl⟩ := read
  obtain ⟨start, splits, spaces, accepted⟩ := Text.longestRun_splits run
  obtain ⟨left, rfl, rfl⟩ := Text.exists_of_append_eq_space_append solid spaces splits
  obtain ⟨⟨body, ending⟩, found, rfl⟩ := Option.map_eq_some_iff.mp accepted
  obtain ⟨rest, bodySplits, -, ended⟩ := Text.shortestBody_splits found
  -- The delimiter does not begin in the body, so the body ends before it.
  have clear := Text.shortestBody_isClear found bodySplits
  rcases List.append_eq_append_iff.mp bodySplits with ⟨further, rfl, same⟩ | ⟨further, rfl, same⟩
  · cases further with
    | nil => exact ⟨space ++ left, [], ending, by simp, by simpa [same] using ended, rfl⟩
    | cons point further =>
      have begins := clear left _ rfl (List.cons_ne_nil point further)
      rw [← same, Text.after?_append_self] at begins
      simp at begins
  · exact ⟨space ++ body, further, ending, by simp, by rwa [← same], rfl⟩

/-- A body reaches to what is behind the first closing delimiter. -/
theorem body?_reaches (solid : closing.IsSolid)
    (clear : Text.IsClear closing (closing ++ behind) text) {reading : Text.Reading Text}
    (read : body? closing (closing? closing) (text ++ (closing ++ behind)) = some reading) :
    reading.rest = behind := by
  obtain ⟨body, left, ending, rfl, ended, rest⟩ := exists_of_body?_eq_some solid read
  rw [rest, closing?_reaches solid clear.of_append ended]

/-- What ends a body in brackets reaches to what is behind the first closing delimiter, unless the
bracket is taken from the delimiter. -/
theorem ending?_reaches (solid : closing.IsSolid)
    (clear : Text.IsClear closing (closing ++ behind) text) {right : CodePoint}
    (isBracket : right = .char '=' ∨ right = .char '\x7d') {reading : Text.Reading Unit}
    (read : ending? closing right (text ++ (closing ++ behind)) = some reading) :
    Reaches closing behind reading.rest := by
  simp only [ending?_eq, afterSpace, Option.map_eq_some_iff] at read
  obtain ⟨⟨space, inner⟩, run, rfl⟩ := read
  obtain ⟨start, splits, spaces, accepted⟩ := Text.longestRun_splits run
  obtain ⟨left, rfl, rfl⟩ := Text.exists_of_append_eq_space_append solid spaces splits
  cases left with
  | nil =>
    -- The bracket is the first character of the delimiter.
    obtain ⟨first, others, delimiter⟩ := List.exists_cons_of_ne_nil solid.1
    rw [List.nil_append, delimiter, List.cons_append] at accepted
    simp only [Tag.behind, Option.ite_none_right_eq_some, Option.map_eq_some_iff] at accepted
    obtain ⟨rfl, ending, closed, rfl⟩ := accepted
    rw [← delimiter] at closed
    simp only [closing?, afterSpace, Option.map_eq_some_iff] at closed
    obtain ⟨⟨gap, last⟩, gapRun, rfl⟩ := closed
    obtain ⟨rest, gapSplits, gaps, ended⟩ := Text.longestRun_splits gapRun
    obtain ⟨after, begins, rfl⟩ := Option.map_eq_some_iff.mp ended
    refine .inr ⟨first, gap, gaps, isBracket, ?_⟩
    rw [delimiter, List.cons_append, gapSplits, Text.after?_eq_some_iff.mp begins, delimiter]
    rfl
  | cons first left =>
    simp only [List.cons_append, Tag.behind, Option.ite_none_right_eq_some,
      Option.map_eq_some_iff] at accepted
    obtain ⟨rfl, ending, closed, rfl⟩ := accepted
    have rest : ending.rest = behind := closing?_reaches solid clear.of_append.of_cons closed
    exact .inl rest

/-- A body in brackets reaches to what is behind the first closing delimiter, unless its bracket is
taken from the delimiter. -/
theorem between?_reaches (solid : closing.IsSolid)
    (clear : Text.IsClear closing (closing ++ behind) text) (nonempty : text ≠ [])
    {left right : CodePoint} (isBracket : right = .char '=' ∨ right = .char '\x7d')
    {reading : Text.Reading Text}
    (read : between? closing left right (text ++ (closing ++ behind)) = some reading) :
    Reaches closing behind reading.rest := by
  obtain ⟨first, text, rfl⟩ := List.exists_cons_of_ne_nil nonempty
  simp only [List.cons_append, between?, Option.ite_none_right_eq_some,
    Option.map_eq_some_iff] at read
  obtain ⟨rfl, inner, bodyRead, rfl⟩ := read
  obtain ⟨body, rest, ending, rfl, ended, restEq⟩ := exists_of_body?_eq_some solid bodyRead
  change Reaches closing behind inner.rest
  rw [restEq]
  exact ending?_reaches solid clear.of_cons.of_append isBracket ended

/-- A body behind a marker or none reaches to what is behind the first closing delimiter. -/
theorem marked?_reaches (solid : closing.IsSolid)
    (clear : Text.IsClear closing (closing ++ behind) text) (nonempty : text ≠ [])
    {reading : Text.Reading Tag}
    (read : marked? closing (text ++ (closing ++ behind)) = some reading) :
    reading.rest = behind := by
  have unmarked : unmarked? closing (text ++ (closing ++ behind)) = some reading →
      reading.rest = behind := by
    intro found
    obtain ⟨inner, bodyRead, rfl⟩ := Option.map_eq_some_iff.mp found
    exact body?_reaches solid clear bodyRead
  obtain ⟨first, text, rfl⟩ := List.exists_cons_of_ne_nil nonempty
  rw [List.cons_append, marked?_cons] at read
  split at read
  · exact unmarked read
  · unfold orElse at read
    split at read
    · rename_i marked
      have found := marked.trans read
      simp only [markedBy?, Tag.behind, if_true, Option.map_map, Option.map_eq_some_iff] at found
      obtain ⟨inner, bodyRead, rfl⟩ := found
      exact body?_reaches solid clear.of_cons bodyRead
    · exact unmarked read

/-- An interior with something in it reaches to what is behind the first closing delimiter, or its
bracket is taken from the delimiter. -/
theorem interior?_reaches (solid : closing.IsSolid)
    (clear : Text.IsClear closing (closing ++ behind) text) (nonempty : text ≠ [])
    {reading : Text.Reading Tag}
    (read : interior? closing (text ++ (closing ++ behind)) = some reading) :
    Reaches closing behind reading.rest := by
  unfold interior? at read
  split at read
  · rename_i inner found
    obtain rfl := Option.some.inj read
    exact between?_reaches solid clear nonempty (.inl rfl) found
  · split at read
    · rename_i inner found
      obtain rfl := Option.some.inj read
      exact between?_reaches solid clear nonempty (.inr rfl) found
    · exact .inl (marked?_reaches solid clear nonempty read)

end Reaches

section Read

variable {delimiters : Delimiters} {text behind : Text}

/-- A tag with something other than white space in front of the first closing delimiter reaches to
what is behind that, or its bracket is taken from the delimiter. -/
theorem read?_reaches (solid : delimiters.AreSolid)
    (clear : Text.IsClear delimiters.closing (delimiters.closing ++ behind) text)
    (filled : ∃ point ∈ text, Text.isSpace point = false) {reading : Text.Reading Tag}
    (read : read? delimiters (delimiters.opening ++ (text ++ (delimiters.closing ++ behind))) =
      some reading) : Reaches delimiters.closing behind reading.rest := by
  simp only [read?_eq, Text.after?_append_self, Option.bind_some, Option.map_eq_some_iff,
    afterSpace] at read
  obtain ⟨_, ⟨⟨space, inner⟩, run, rfl⟩, rfl⟩ := read
  obtain ⟨start, splits, spaces, found⟩ := Text.longestRun_splits run
  obtain ⟨left, rfl, rfl⟩ :=
    Text.exists_of_append_eq_space_append solid.closing spaces splits
  have nonempty : left ≠ [] := by
    rintro rfl
    obtain ⟨point, member, notSpace⟩ := filled
    rw [spaces point (by simpa using member)] at notSpace
    simp at notSpace
  have reaches : Reaches delimiters.closing behind inner.rest :=
    interior?_reaches solid.closing clear.of_append nonempty found
  exact reaches

/-- What is not empty and closed is a body. -/
theorem shortestBody_isSome {closing : Text}
    (clear : Text.IsClear closing (closing ++ behind) text) (nonempty : text ≠ []) :
    (Text.shortestBody closing (closing? closing) (text ++ (closing ++ behind))).isSome := by
  induction text with
  | nil => exact absurd rfl nonempty
  | cons first text inductionHypothesis =>
    have begins : Text.after? closing (first :: (text ++ (closing ++ behind))) = none :=
      clear [] _ rfl nonempty
    simp only [List.cons_append, Text.shortestBody, begins]
    cases accepted : closing? closing (text ++ (closing ++ behind)) with
    | some ending => simp
    | none =>
      cases text with
      | nil =>
        have ends : (closing? closing (closing ++ behind)).isSome := by
          simp only [closing?, afterSpace, Option.isSome_map]
          exact longestRun_isSome (by simp)
        simp only [List.nil_append] at accepted
        simp [accepted] at ends
      | cons second text =>
        have further := inductionHypothesis
          clear.of_cons (List.cons_ne_nil second text)
        simpa using further

/-- An opening delimiter with something between it and a closing one begins a tag. -/
theorem read?_isSome (clear : Text.IsClear delimiters.closing (delimiters.closing ++ behind) text)
    (nonempty : text ≠ []) :
    (read? delimiters (delimiters.opening ++ (text ++ (delimiters.closing ++ behind)))).isSome := by
  have unmarked : (unmarked? delimiters.closing
      (text ++ (delimiters.closing ++ behind))).isSome := by
    simp only [unmarked?, body?_eq_afterSpace, afterSpace, Option.isSome_map]
    exact longestRun_isSome (by simpa [bareBody?] using shortestBody_isSome clear nonempty)
  have orElse_isSome : ∀ {first second : Text → Option (Text.Reading Tag)} {text : Text},
      (second text).isSome → (orElse first second text).isSome := by
    intro first second text found
    unfold orElse
    split
    · rfl
    · exact found
  have interior : (interior? delimiters.closing
      (text ++ (delimiters.closing ++ behind))).isSome := by
    rw [interior?_eq]
    refine orElse_isSome (orElse_isSome ?_)
    obtain ⟨first, text, rfl⟩ := List.exists_cons_of_ne_nil nonempty
    rw [List.cons_append, marked?_cons]
    split
    · exact unmarked
    · exact orElse_isSome unmarked
  simp only [read?_eq, Text.after?_append_self, Option.bind_some, Option.isSome_map,
    afterSpace]
  exact longestRun_isSome interior

/-- Between doubled braces a tag reaches to what is behind the first closing delimiter, or one brace
further. -/
theorem read?_standard_reaches
    (clear : Text.IsClear Delimiters.standard.closing (Delimiters.standard.closing ++ behind) text)
    (filled : ∃ point ∈ text, Text.isSpace point = false) {reading : Text.Reading Tag}
    (read : read? .standard
      (Delimiters.standard.opening ++ (text ++ (Delimiters.standard.closing ++ behind))) =
        some reading) :
    reading.rest = behind ∨ behind = .char '\x7d' :: reading.rest := by
  rcases read?_reaches (by decide) clear filled read with same | ⟨bracket, space, spaces, -, same⟩
  · exact .inl same
  · have closing : Delimiters.standard.closing = [.char '\x7d', .char '\x7d'] := by decide
    simp only [closing, List.cons_append, List.nil_append] at same
    obtain ⟨-, same⟩ := List.cons.inj same
    cases space with
    | nil => exact .inr (List.cons.inj same).2
    | cons point space =>
      obtain ⟨rfl, -⟩ := List.cons.inj same
      exact absurd (spaces _ List.mem_cons_self) (by decide)

end Read

end Tag

end Stencil
