import Stencil.Proofs.Tag.Closing

/-!
# How tags are written

A tag is written as its opening delimiter, what its form has in front of the body, the body, what
its form has behind the body, and its closing delimiter, with white space between any two of these
(`Tag.IsWritten`). This says nothing about how tags are looked for. The two agree: a tag is read at
a place exactly if one is written there (`Tag.read?_isSome_iff`), and it is read in the first form
in which one is written there (`Tag.form_eq_change_iff`, `Tag.form_eq_braced_iff`). Of the white
space around it the body keeps nothing, unless there is nothing else (`Tag.isWritten_of_read?`).
-/

namespace Stencil

namespace Text

/-! ## Texts with and without white space -/

/-- A text of nothing but white space. -/
def IsSpacing (text : Text) : Prop :=
  ∀ point ∈ text, isSpace point = true

/-- A text that neither begins nor ends with white space, unless it is a single one. -/
inductive IsTrimmed (text : Text) : Prop where
  | solid (begins : ∀ first ∈ text.head?, isSpace first = false)
      (ends : ∀ last ∈ text.getLast?, isSpace last = false)
  | single (point : CodePoint) (space : isSpace point = true) (same : text = [point])

end Text

namespace Tag

/-! ## Written tags -/

/-- What stands in front of the body of a tag. -/
def Form.left : Form → Text
  | .change => [.char '=']
  | .braced => [.char '{']
  | .plain marker => marker.toList

/-- What stands behind the body of a tag. -/
def Form.right : Form → Text
  | .change => [.char '=']
  | .braced => [.char '}']
  | .plain _ => []

/-- The interior of a tag as it is written, with the closing delimiter and in front of some rest. A
marker is no part of a word, and no closing delimiter begins inside the body. -/
inductive IsInterior (closing rest : Text) : Tag → Text → Prop where
  | intro {form body inner gap last}
      (marks : ∀ marker, form = .plain (some marker) → Text.isWord marker = false)
      (innerSpacing : Text.IsSpacing inner) (nonempty : body ≠ [])
      (clear : Text.IsClear closing (gap ++ (form.right ++ (last ++ (closing ++ rest)))) body)
      (gapSpacing : Text.IsSpacing gap) (lastSpacing : Text.IsSpacing last) :
      IsInterior closing rest ⟨form, body⟩
        (form.left ++ (inner ++ (body ++ (gap ++ (form.right ++ (last ++ closing))))))

/-- A tag as it is written in front of some rest: the opening delimiter, white space and the
interior. -/
inductive IsWritten (delimiters : Delimiters) (rest : Text) : Tag → Text → Prop where
  | intro {tag outer interior} (outerSpacing : Text.IsSpacing outer)
      (isInterior : IsInterior delimiters.closing rest tag interior) :
      IsWritten delimiters rest tag (delimiters.opening ++ (outer ++ interior))

/-! ## Runs and bodies -/

section Runs

variable {α : Type} {closing : Text}

/-- What is read behind white space is read with more white space in front of that. -/
theorem afterSpace_cons_isSome {accept : Text → Option (Text.Reading α)} {first : CodePoint}
    {rest : Text} (space : Text.isSpace first = true) (found : (afterSpace accept rest).isSome) :
    (afterSpace accept (first :: rest)).isSome := by
  unfold afterSpace at found ⊢
  rw [Option.isSome_map] at found ⊢
  obtain ⟨result, run⟩ := Option.isSome_iff_exists.mp found
  simp [Text.longestRun, space, run]

/-- Behind white space something is read if it is read without that. -/
theorem afterSpace_isSome {accept : Text → Option (Text.Reading α)} {space rest : Text}
    (spacing : Text.IsSpacing space) (accepted : (accept rest).isSome) :
    (afterSpace accept (space ++ rest)).isSome := by
  induction space with
  | nil =>
    unfold afterSpace
    rw [Option.isSome_map]
    exact longestRun_isSome accepted
  | cons first space inductionHypothesis =>
    exact afterSpace_cons_isSome (spacing first List.mem_cons_self)
      (inductionHypothesis fun point inside => spacing point (List.mem_cons_of_mem first inside))

/-- All white space is passed over if what stands behind it can be read. -/
theorem afterSpace_eq {accept : Text → Option (Text.Reading α)} {space rest : Text}
    {reading : Text.Reading α} (spacing : Text.IsSpacing space)
    (begins : ∀ first ∈ rest.head?, Text.isSpace first = false)
    (accepted : accept rest = some reading) :
    afterSpace accept (space ++ rest) = some (reading.after space) := by
  have stops : Text.longestRun Text.isSpace accept rest = some ([], reading) := by
    cases rest with
    | nil => simp [Text.longestRun, accepted]
    | cons first rest => simp [Text.longestRun, begins first rfl, accepted]
  have runs : Text.longestRun Text.isSpace accept (space ++ rest) = some (space, reading) := by
    induction space with
    | nil => exact stops
    | cons first space inductionHypothesis =>
      have further := inductionHypothesis fun point inside =>
        spacing point (List.mem_cons_of_mem first inside)
      simp [Text.longestRun, spacing first List.mem_cons_self, further]
  simp [afterSpace, runs]

/-- A run ends where no longer one leads to something that is read. -/
theorem longestRun_longest {belongs : CodePoint → Bool} {accept : Text → Option α}
    {run rest : Text} {first : CodePoint} {result : α}
    (found : Text.longestRun belongs accept (run ++ first :: rest) = some (run, result))
    (member : belongs first = true) : Text.longestRun belongs accept rest = none := by
  induction run with
  | nil =>
    simp only [List.nil_append, Text.longestRun, member, if_true] at found
    split at found
    · simp at found
    · assumption
  | cons point run inductionHypothesis =>
    apply inductionHypothesis
    simp only [List.cons_append, Text.longestRun] at found
    split at found
    · split at found
      · rename_i longer
        simp only [Option.some.injEq, Prod.mk.injEq, List.cons.injEq, true_and] at found
        obtain ⟨rfl, rfl⟩ := found
        exact longer
      · simp at found
    · simp at found

/-- A body can be any text that is not empty and in which no closing text begins, if what stands
behind it is accepted. -/
theorem shortestBody_isSome_of_isClear {accept : Text → Option α} {body rest : Text}
    (nonempty : body ≠ []) (clear : Text.IsClear closing rest body)
    (accepted : (accept rest).isSome) :
    (Text.shortestBody closing accept (body ++ rest)).isSome := by
  induction body with
  | nil => exact absurd rfl nonempty
  | cons first body inductionHypothesis =>
    obtain ⟨here, clear⟩ := Text.isClear_cons_iff.mp clear
    simp only [List.cons_append, Text.shortestBody, here, Option.isSome_none]
    cases ended : accept (body ++ rest) with
    | some result => simp
    | none =>
      have further : body ≠ [] := by
        rintro rfl
        rw [List.nil_append] at ended
        simp [ended] at accepted
      simpa using inductionHypothesis further clear

/-- A body is the shortest one: nothing is accepted behind a part of it. -/
theorem eq_none_of_shortestBody {accept : Text → Option α} {before more rest : Text} {result : α}
    (found : Text.shortestBody closing accept (before ++ more ++ rest) =
      some (before ++ more, result)) (nonempty : before ≠ []) (further : more ≠ []) :
    accept (more ++ rest) = none := by
  induction before with
  | nil => exact absurd rfl nonempty
  | cons first before inductionHypothesis =>
    simp only [List.cons_append, Text.shortestBody] at found
    split at found
    · simp at found
    · split at found
      · simp only [Option.some.injEq, Prod.mk.injEq, List.cons.injEq, true_and] at found
        exact absurd (List.append_eq_nil_iff.mp found.1.symm).2 further
      · rename_i refused
        simp only [Option.map_eq_some_iff, Prod.mk.injEq, List.cons.injEq, true_and] at found
        obtain ⟨⟨shorter, value⟩, later, rfl, rfl⟩ := found
        cases before with
        | nil => simpa using refused
        | cons second before => exact inductionHypothesis later (List.cons_ne_nil second before)

end Runs

section Readers

variable {closing text rest : Text}

/-- White space and the closing delimiter end a tag. -/
theorem closing?_isSome {space : Text} (spacing : Text.IsSpacing space) :
    (closing? closing (space ++ (closing ++ rest))).isSome :=
  afterSpace_isSome spacing (by simp)

/-- White space, a bracket, white space and the closing delimiter end a tag with brackets. -/
theorem ending?_isSome {right : CodePoint} {gap last : Text} (gapSpacing : Text.IsSpacing gap)
    (lastSpacing : Text.IsSpacing last) :
    (ending? closing right (gap ++ (right :: (last ++ (closing ++ rest))))).isSome := by
  rw [ending?_eq]
  exact afterSpace_isSome gapSpacing (by simpa [behind] using closing?_isSome lastSpacing)

/-- What ends a tag with brackets is written as white space, the bracket, white space and the
closing delimiter. -/
theorem exists_of_ending?_eq_some {right : CodePoint} {reading : Text.Reading Unit}
    (read : ending? closing right text = some reading) :
    ∃ gap last, Text.IsSpacing gap ∧ Text.IsSpacing last ∧
      reading.source = gap ++ (right :: (last ++ closing)) := by
  rw [ending?_eq] at read
  obtain ⟨⟨gap, inner⟩, run, rfl⟩ := Option.map_eq_some_iff.mp read
  obtain ⟨start, -, gaps, accepted⟩ := Text.longestRun_splits run
  cases start with
  | nil => simp [behind] at accepted
  | cons first start =>
    simp only [behind, Option.ite_none_right_eq_some, Option.map_eq_some_iff] at accepted
    obtain ⟨rfl, ending, closed, rfl⟩ := accepted
    obtain ⟨last, lasts, source⟩ := exists_of_closing?_eq_some closed
    exact ⟨gap, last, gaps, lasts, congrArg (fun written => gap ++ first :: written) source⟩

/-- White space, a text in which no closing delimiter begins, and what is accepted behind that make
up a body. -/
theorem body?_isSome (accept : Text → Option (Text.Reading Unit)) {inner body : Text}
    (innerSpacing : Text.IsSpacing inner) (nonempty : body ≠ [])
    (clear : Text.IsClear closing rest body) (accepted : (accept rest).isSome) :
    (body? closing accept (inner ++ (body ++ rest))).isSome := by
  rw [body?_eq_afterSpace]
  refine afterSpace_isSome innerSpacing ?_
  simpa [bareBody?] using shortestBody_isSome_of_isClear nonempty clear accepted

/-- A body keeps none of the white space around it, unless there is nothing else. -/
theorem isTrimmed_of_shortestBody {accept : Text → Option (Text.Reading Unit)} {body : Text}
    {ending : Text.Reading Unit}
    (found : Text.shortestBody closing (afterSpace accept) (body ++ rest) = some (body, ending))
    (longest : ∀ first more, body = first :: more → Text.isSpace first = true →
      Text.longestRun Text.isSpace (bareBody? closing (afterSpace accept)) (more ++ rest) = none) :
    body.IsTrimmed := by
  obtain ⟨_, splits, nonempty, ended⟩ := Text.shortestBody_splits found
  obtain rfl := List.append_cancel_left splits
  have clear := Text.shortestBody_isClear found rfl
  by_cases single : ∃ point, body = [point]
  · obtain ⟨point, rfl⟩ := single
    cases space : Text.isSpace point with
    | true => exact .single point space rfl
    | false => exact .solid (by simpa using space) (by simpa using space)
  refine .solid (fun first isFirst => ?_) fun last isLast => ?_
  · obtain ⟨more, rfl⟩ := List.head?_eq_some_iff.mp isFirst
    have further : more ≠ [] := fun nothing => single ⟨first, congrArg (first :: ·) nothing⟩
    -- Without its first code point the body is a body as well, behind more white space.
    have shorter := shortestBody_isSome_of_isClear further clear.of_cons
      (Option.isSome_iff_exists.mpr ⟨ending, ended⟩)
    have run : (Text.longestRun Text.isSpace (bareBody? closing (afterSpace accept))
        (more ++ rest)).isSome := longestRun_isSome (by simpa [bareBody?] using shorter)
    cases space : Text.isSpace first with
    | false => rfl
    | true => simp [longest first more rfl space] at run
  · obtain ⟨before, rfl⟩ := List.getLast?_eq_some_iff.mp isLast
    have something : before ≠ [] := by
      rintro rfl
      exact single ⟨last, rfl⟩
    -- What ends the body is accepted with white space in front of it, so the body would end there.
    have refused : afterSpace accept (last :: rest) = none :=
      eq_none_of_shortestBody found something (List.cons_ne_nil last [])
    cases space : Text.isSpace last with
    | false => rfl
    | true =>
      have accepted := afterSpace_cons_isSome space (Option.isSome_iff_exists.mpr ⟨ending, ended⟩)
      simp [refused] at accepted

/-- A body with what ends it is an interior behind what its form has in front of it. -/
theorem isInterior_of_body? (form : Form) {accept : Text → Option (Text.Reading Unit)}
    (faithful : Faithful (afterSpace accept))
    (marks : ∀ marker, form = .plain (some marker) → Text.isWord marker = false)
    (endings : ∀ {text ending}, afterSpace accept text = some ending →
      ∃ gap last, Text.IsSpacing gap ∧ Text.IsSpacing last ∧
        ending.source = gap ++ (form.right ++ (last ++ closing)))
    {reading : Text.Reading Text} (read : body? closing (afterSpace accept) text = some reading) :
    IsInterior closing reading.rest ⟨form, reading.value⟩ (form.left ++ reading.source) ∧
      reading.value.IsTrimmed := by
  rw [body?_eq_afterSpace] at read
  obtain ⟨⟨inner, inside⟩, run, rfl⟩ := Option.map_eq_some_iff.mp read
  obtain ⟨start, rfl, inners, accepted⟩ := Text.longestRun_splits run
  obtain ⟨⟨body, ending⟩, found, rfl⟩ := Option.map_eq_some_iff.mp accepted
  obtain ⟨behind, rfl, nonempty, ended⟩ := Text.shortestBody_splits found
  obtain ⟨gap, last, gaps, lasts, source⟩ := endings ended
  have clear := Text.shortestBody_isClear found rfl
  have splits : behind = gap ++ (form.right ++ (last ++ (closing ++ ending.rest))) := by
    have splits : behind = ending.source ++ ending.rest := faithful ended
    simp [splits, source]
  rw [splits] at clear
  constructor
  · have interior : IsInterior closing ending.rest ⟨form, body⟩ _ :=
      .intro marks inners nonempty clear gaps lasts
    rw [← source] at interior
    exact interior
  · refine isTrimmed_of_shortestBody found fun first more isBody space => ?_
    obtain rfl : body = first :: more := isBody
    exact longestRun_longest run space

/-- A body in brackets is the interior of a tag of the form with these brackets. -/
theorem isInterior_of_between? (form : Form) {left right : CodePoint} (isLeft : form.left = [left])
    (isRight : form.right = [right]) (marks : ∀ marker, form ≠ .plain marker)
    {reading : Text.Reading Text} (read : between? closing left right text = some reading) :
    IsInterior closing reading.rest ⟨form, reading.value⟩ reading.source ∧
      reading.value.IsTrimmed := by
  cases text with
  | nil => simp [between?] at read
  | cons first text =>
    simp only [between?_eq, behind, Option.ite_none_right_eq_some, Option.map_eq_some_iff] at read
    obtain ⟨rfl, inner, bodyRead, rfl⟩ := read
    have faithful : Faithful (ending? closing right) := ending?_faithful closing right
    rw [ending?_eq] at bodyRead faithful
    have interior := isInterior_of_body? form faithful
      (fun marker isPlain => absurd isPlain (marks _))
      (fun ended => isRight ▸ exists_of_ending?_eq_some (ending?_eq closing right ▸ ended)) bodyRead
    rw [isLeft] at interior
    exact interior

/-- A body behind a marker or none is the interior of a tag without brackets. -/
theorem isInterior_of_marked? {reading : Text.Reading Tag}
    (read : marked? closing text = some reading) :
    IsInterior closing reading.rest reading.value reading.source ∧
      reading.value.body.IsTrimmed := by
  have endings : ∀ {text ending}, closing? closing text = some ending →
      ∃ gap last, Text.IsSpacing gap ∧ Text.IsSpacing last ∧
        ending.source = gap ++ ([] ++ (last ++ closing)) := by
    intro text ending ended
    obtain ⟨gap, gaps, source⟩ := exists_of_closing?_eq_some ended
    exact ⟨gap, [], gaps, by simp [Text.IsSpacing], source⟩
  have ofBody : ∀ {marker : Option CodePoint} {text inner},
      (∀ point, marker = some point → Text.isWord point = false) →
      body? closing (closing? closing) text = some inner →
      IsInterior closing inner.rest ⟨.plain marker, inner.value⟩ (marker.toList ++ inner.source) ∧
        inner.value.IsTrimmed :=
    fun {marker} _ _ marks bodyRead =>
      isInterior_of_body? (.plain marker) (closing?_faithful closing)
        (fun point isMarker => marks point (Form.plain.inj isMarker)) endings bodyRead
  have unmarked : unmarked? closing text = some reading →
      IsInterior closing reading.rest reading.value reading.source ∧
        reading.value.body.IsTrimmed := by
    intro found
    obtain ⟨inner, bodyRead, rfl⟩ := Option.map_eq_some_iff.mp found
    exact ofBody nofun bodyRead
  cases text with
  | nil => exact unmarked read
  | cons first text =>
    rw [marked?_cons] at read
    split at read
    · exact unmarked read
    · rename_i notWord
      unfold orElse at read
      split at read
      · rename_i marked
        have found := marked.trans read
        simp only [markedBy?, behind, if_true, Option.map_map, Option.map_eq_some_iff] at found
        obtain ⟨inner, bodyRead, rfl⟩ := found
        refine @ofBody (some first) _ _ (fun point isMarker => ?_) bodyRead
        obtain rfl := Option.some.inj isMarker
        simpa using notWord
      · exact unmarked read

/-- What is read as an interior is one. -/
theorem isInterior_of_interior? {reading : Text.Reading Tag}
    (read : interior? closing text = some reading) :
    IsInterior closing reading.rest reading.value reading.source ∧
      reading.value.body.IsTrimmed := by
  unfold interior? at read
  split at read
  · rename_i inner found
    obtain rfl := Option.some.inj read
    exact isInterior_of_between? .change rfl rfl nofun found
  · split at read
    · rename_i inner found
      obtain rfl := Option.some.inj read
      exact isInterior_of_between? .braced rfl rfl nofun found
    · exact isInterior_of_marked? read

/-- A reader that tries two others reads what one of them reads. -/
theorem orElse_isSome {α : Type} {first second : Text → Option (Text.Reading α)}
    (found : (first text).isSome ∨ (second text).isSome) : (orElse first second text).isSome := by
  unfold orElse
  split
  · rfl
  · rename_i absent
    simpa [absent] using found

/-- A body in brackets is read as one. -/
theorem between?_isSome (left right : CodePoint) {inner body gap last : Text}
    (innerSpacing : Text.IsSpacing inner) (nonempty : body ≠ [])
    (clear : Text.IsClear closing (gap ++ (right :: (last ++ (closing ++ rest)))) body)
    (gapSpacing : Text.IsSpacing gap) (lastSpacing : Text.IsSpacing last) :
    (between? closing left right
      (left :: (inner ++ (body ++ (gap ++ (right :: (last ++ (closing ++ rest)))))))).isSome := by
  have read := body?_isSome (ending? closing right) innerSpacing nonempty clear
    (ending?_isSome gapSpacing lastSpacing)
  simpa [between?_eq, behind] using read

/-- A body behind a marker or none is read as one, if the marker is no part of a word. -/
theorem marked?_isSome {marker : Option CodePoint} {inner body space : Text}
    (marks : ∀ point, marker = some point → Text.isWord point = false)
    (innerSpacing : Text.IsSpacing inner) (nonempty : body ≠ [])
    (clear : Text.IsClear closing (space ++ (closing ++ rest)) body)
    (spacing : Text.IsSpacing space) :
    (marked? closing
      (marker.toList ++ (inner ++ (body ++ (space ++ (closing ++ rest)))))).isSome := by
  have read := body?_isSome (closing? closing) innerSpacing nonempty clear
    (closing?_isSome spacing)
  cases marker with
  | none =>
    have unmarked : ∀ {text}, (body? closing (closing? closing) text).isSome →
        (marked? closing text).isSome := by
      intro text found
      have found : (unmarked? closing text).isSome := by simpa [unmarked?] using found
      cases text with
      | nil => exact found
      | cons first text =>
        rw [marked?_cons]
        split
        · exact found
        · exact orElse_isSome (.inr found)
    exact unmarked read
  | some point =>
    rw [Option.toList_some, List.singleton_append, marked?_cons, marks point rfl,
      if_neg Bool.false_ne_true]
    exact orElse_isSome (.inl (by simpa [markedBy?, behind] using read))

/-- An interior is read as one, in the first form that fits. -/
theorem exists_interior?_eq_some {tag : Tag} {source : Text}
    (isInterior : IsInterior closing rest tag source) :
    ∃ reading, interior? closing (source ++ rest) = some reading ∧
      (tag.form = .change → reading.value.form = .change) ∧
      (tag.form = .braced → reading.value.form = .braced) := by
  obtain @⟨form, body, inner, gap, last, marks, inners, nonempty, clear, gaps, lasts⟩ := isInterior
  simp only [List.append_assoc]
  cases form with
  | change =>
    obtain ⟨reading, read⟩ := Option.isSome_iff_exists.mp
      (between?_isSome (.char '=') (.char '=') inners nonempty clear gaps lasts)
    refine ⟨reading.map (Tag.mk .change), ?_, fun _ => rfl, by simp⟩
    simp [interior?, Form.left, Form.right, read]
  | braced =>
    obtain ⟨reading, read⟩ := Option.isSome_iff_exists.mp
      (between?_isSome (.char '{') (.char '}') inners nonempty clear gaps lasts)
    have unlike : ∀ text, between? closing (.char '=') (.char '=') (.char '{' :: text) = none :=
      fun text => by simp [between?]
    refine ⟨reading.map (Tag.mk .braced), ?_, by simp, fun _ => rfl⟩
    simp [interior?, Form.left, Form.right, read, unlike]
  | plain marker =>
    have spacing : Text.IsSpacing (gap ++ last) := by
      intro point inside
      exact (List.mem_append.mp inside).elim (gaps point) (lasts point)
    have clear : Text.IsClear closing ((gap ++ last) ++ (closing ++ rest)) body := by
      simpa [Form.right] using clear
    have marked := marked?_isSome (fun point isMarker => marks point (congrArg Form.plain isMarker))
      inners nonempty clear spacing
    have read := interior?_eq closing ▸ orElse_isSome (.inr (orElse_isSome (.inr marked)))
    obtain ⟨reading, read⟩ := Option.isSome_iff_exists.mp read
    exact ⟨reading, by simpa [Form.left, Form.right] using read, by simp, by simp⟩

end Readers

/-! ## Reading and writing -/

section Read

variable {delimiters : Delimiters} {text rest : Text}

/-- What is read as a tag is written as one. -/
theorem isWritten_of_read? {reading : Text.Reading Tag}
    (read : read? delimiters text = some reading) :
    IsWritten delimiters reading.rest reading.value reading.source ∧
      reading.value.body.IsTrimmed := by
  rw [read?_eq, Option.bind_eq_some_iff] at read
  obtain ⟨inside, -, read⟩ := read
  obtain ⟨_, inner, rfl⟩ := Option.map_eq_some_iff.mp read
  obtain ⟨⟨outer, interior⟩, run, rfl⟩ := Option.map_eq_some_iff.mp inner
  obtain ⟨start, -, outers, found⟩ := Text.longestRun_splits run
  obtain ⟨isInterior, trimmed⟩ := isInterior_of_interior? found
  exact ⟨.intro outers isInterior, trimmed⟩

/-- What is written as a tag is read as one, in the first form that fits. -/
theorem exists_read?_eq_some {tag : Tag} {source : Text}
    (written : IsWritten delimiters rest tag source) :
    ∃ reading, read? delimiters (source ++ rest) = some reading ∧
      (tag.form = .change → reading.value.form = .change) ∧
      (tag.form = .braced → reading.value.form = .braced) := by
  obtain @⟨outer, interior, outers, isInterior⟩ := written
  obtain ⟨inner, found, isChange, isBraced⟩ := exists_interior?_eq_some isInterior
  rw [read?_eq, List.append_assoc, Text.after?_append_self, Option.bind_some, List.append_assoc]
  -- In front of a bracket all white space is passed over; otherwise some of it may be a body.
  by_cases bracket : ∀ first ∈ (interior ++ rest).head?, Text.isSpace first = false
  · rw [afterSpace_eq outers bracket found]
    exact ⟨_, rfl, isChange, isBraced⟩
  · obtain ⟨reading, read⟩ := Option.isSome_iff_exists.mp
      (afterSpace_isSome outers (Option.isSome_iff_exists.mpr ⟨inner, found⟩))
    rw [read]
    refine ⟨_, rfl, fun isForm => ?_, fun isForm => ?_⟩ <;>
    · refine absurd (fun first isFirst => ?_) bracket
      cases isInterior
      dsimp only at isForm
      subst isForm
      cases isFirst
      decide

/-- A tag is read exactly where one is written. -/
theorem read?_isSome_iff :
    (read? delimiters text).isSome ↔
      ∃ tag source rest, text = source ++ rest ∧ IsWritten delimiters rest tag source := by
  constructor
  · intro found
    obtain ⟨reading, read⟩ := Option.isSome_iff_exists.mp found
    exact ⟨reading.value, reading.source, reading.rest, (read?_splits read).1,
      (isWritten_of_read? read).1⟩
  · rintro ⟨tag, source, rest, rfl, written⟩
    obtain ⟨reading, read, -⟩ := exists_read?_eq_some written
    exact Option.isSome_iff_exists.mpr ⟨reading, read⟩

/-- A tag with equals signs is read exactly where one is written. -/
theorem form_eq_change_iff {reading : Text.Reading Tag}
    (read : read? delimiters text = some reading) :
    reading.value.form = .change ↔
      ∃ tag source rest, text = source ++ rest ∧ IsWritten delimiters rest tag source ∧
        tag.form = .change := by
  constructor
  · exact fun isChange => ⟨reading.value, reading.source, reading.rest, (read?_splits read).1,
      (isWritten_of_read? read).1, isChange⟩
  · rintro ⟨tag, source, rest, rfl, written, isChange⟩
    obtain ⟨other, readOther, same, -⟩ := exists_read?_eq_some written
    obtain rfl := Option.some.inj (read.symm.trans readOther)
    exact same isChange

/-- A tag with braces is read exactly where one is written and none with equals signs. -/
theorem form_eq_braced_iff {reading : Text.Reading Tag}
    (read : read? delimiters text = some reading) :
    reading.value.form = .braced ↔
      (¬ ∃ tag source rest, text = source ++ rest ∧ IsWritten delimiters rest tag source ∧
        tag.form = .change) ∧
      ∃ tag source rest, text = source ++ rest ∧ IsWritten delimiters rest tag source ∧
        tag.form = .braced := by
  rw [← form_eq_change_iff read]
  constructor
  · exact fun isBraced => ⟨by simp [isBraced], reading.value, reading.source, reading.rest,
      (read?_splits read).1, (isWritten_of_read? read).1, isBraced⟩
  · rintro ⟨-, tag, source, rest, rfl, written, isBraced⟩
    obtain ⟨other, readOther, -, same⟩ := exists_read?_eq_some written
    obtain rfl := Option.some.inj (read.symm.trans readOther)
    exact same isBraced

end Read

end Tag

end Stencil
