import Stencil.Tag.Lemmas

/-!
# Tags are read locally

Whether a tag begins at a place depends on nothing behind the tag, with one exception: no body may
hold the closing delimiter, so a reader looks ahead as far as that delimiter is long. A delimiter
cut off by the end of a text does no harm, since whatever is read ends with a closing delimiter of
its own. `IsLocal` states this for the readers that a tag is put together from:

- what is read from a text and ends before some tail is read without the tail as well, and
- where something is read, something is read with a tail behind the text, though perhaps not the
  same.

`Tag.read?_isLocal` is what the search for tags in a part of a template rests on.
-/

namespace Stencil

namespace Text

/-- A fixed opening is found with a tail behind the text just as without it. -/
theorem after?_append {opening text rest : Text} (tail : Text)
    (found : after? opening text = some rest) :
    after? opening (text ++ tail) = some (rest ++ tail) := by
  rw [after?_eq_some_iff] at found ⊢
  rw [found, List.append_assoc]

/-- In a text that is long enough a fixed opening does not reach into the tail behind it. -/
theorem after?_isSome_of_append {opening text tail : Text} (enough : opening.length ≤ text.length)
    (found : (after? opening (text ++ tail)).isSome) : (after? opening text).isSome := by
  obtain ⟨rest, begins⟩ := Option.isSome_iff_exists.mp found
  rw [after?_eq_some_iff] at begins
  have isStart : opening <+: text :=
    List.prefix_of_prefix_length_le ⟨rest, begins.symm⟩ (List.prefix_append text tail) enough
  obtain ⟨remainder, same⟩ := isStart
  exact Option.isSome_iff_exists.mpr ⟨remainder, after?_eq_some_iff.mpr same.symm⟩

end Text

namespace Tag

variable {α : Type} {closing : Text}

/-- A reader of something that ends with the closing delimiter and depends on nothing behind it. -/
structure IsLocal (closing : Text) (reader : Text → Option (Text.Reading α)) : Prop where
  faithful : Faithful reader
  closes : ∀ {text reading}, reader text = some reading → closing <:+ reading.source
  cut : ∀ {text tail value source rest},
    reader (text ++ tail) = some ⟨value, source, rest ++ tail⟩ →
      reader text = some ⟨value, source, rest⟩
  extend : ∀ {text} (tail), (reader text).isSome → (reader (text ++ tail)).isSome

namespace IsLocal

variable {reader : Text → Option (Text.Reading α)}

/-- A text that something is read from has room for the closing delimiter. -/
theorem length_le (isLocal : IsLocal closing reader) {text : Text}
    (found : (reader text).isSome) : closing.length ≤ text.length := by
  obtain ⟨reading, read⟩ := Option.isSome_iff_exists.mp found
  have splits : text = reading.source ++ reading.rest := isLocal.faithful read
  have within := (isLocal.closes read).length_le
  rw [splits, List.length_append]
  omega

/-- Where nothing is read in spite of a tail, nothing is read without it. -/
theorem eq_none_of_append (isLocal : IsLocal closing reader) {text tail : Text}
    (absent : reader (text ++ tail) = none) : reader text = none := by
  cases read : reader text with
  | none => rfl
  | some reading =>
    have found : (reader (text ++ tail)).isSome := isLocal.extend tail (by simp [read])
    simp [absent] at found

/-- A reader that makes something else of what it reads is as local. -/
theorem map {β : Type} (isLocal : IsLocal closing reader) (change : α → β) :
    IsLocal closing fun text => (reader text).map (Text.Reading.map change) where
  faithful := by
    intro text reading found
    obtain ⟨inner, read, rfl⟩ := Option.map_eq_some_iff.mp found
    exact Text.Reading.splits_map.mpr (isLocal.faithful read)
  closes := by
    intro text reading found
    obtain ⟨inner, read, rfl⟩ := Option.map_eq_some_iff.mp found
    exact isLocal.closes read
  cut := by
    intro text tail value source rest found
    obtain ⟨⟨inner, innerSource, innerRest⟩, read, same⟩ := Option.map_eq_some_iff.mp found
    simp only [Text.Reading.map, Text.Reading.mk.injEq] at same
    obtain ⟨rfl, rfl, rfl⟩ := same
    simp [isLocal.cut read, Text.Reading.map]
  extend := by
    intro text tail found
    simpa using isLocal.extend tail (by simpa using found)

end IsLocal

/-! ## Runs and bodies -/

section Runs

variable {accept : Text → Option (Text.Reading α)}

/-- A run of some class leads to something that is read if the empty run does. -/
theorem longestRun_isSome {belongs : CodePoint → Bool} {text : Text}
    (found : (accept text).isSome) : (Text.longestRun belongs accept text).isSome := by
  cases text with
  | nil => simpa [Text.longestRun] using found
  | cons first rest =>
    unfold Text.longestRun
    split
    · split
      · rfl
      · simpa using found
    · simpa using found

/-- What is read behind a run is read with a tail behind the text. -/
theorem longestRun_extend (isLocal : IsLocal closing accept) {belongs : CodePoint → Bool}
    {text : Text} (tail : Text) (found : (Text.longestRun belongs accept text).isSome) :
    (Text.longestRun belongs accept (text ++ tail)).isSome := by
  induction text with
  | nil =>
    have here : (accept []).isSome := by simpa [Text.longestRun] using found
    exact longestRun_isSome (isLocal.extend tail here)
  | cons first rest inductionHypothesis =>
    by_cases later : belongs first = true ∧ (Text.longestRun belongs accept rest).isSome
    · obtain ⟨result, run⟩ := Option.isSome_iff_exists.mp (inductionHypothesis later.2)
      simp [Text.longestRun, later.1, run]
    · have here : (accept (first :: rest)).isSome := by
        unfold Text.longestRun at found
        split at found
        · rename_i member
          have absent : Text.longestRun belongs accept rest = none := by
            simpa [member] using later
          simpa [absent] using found
        · simpa using found
      exact longestRun_isSome (isLocal.extend tail here)

/-- Where nothing is read behind any run in spite of a tail, nothing is without it. -/
theorem longestRun_eq_none_of_append (isLocal : IsLocal closing accept)
    {belongs : CodePoint → Bool} {text tail : Text}
    (absent : Text.longestRun belongs accept (text ++ tail) = none) :
    Text.longestRun belongs accept text = none := by
  cases run : Text.longestRun belongs accept text with
  | none => rfl
  | some result =>
    have found : (Text.longestRun belongs accept (text ++ tail)).isSome :=
      longestRun_extend isLocal tail (by simp [run])
    simp [absent] at found

/-- A run and what is read behind it do not depend on a tail that neither reaches. -/
theorem longestRun_cut (isLocal : IsLocal closing accept) {belongs : CodePoint → Bool}
    {text tail run source rest : Text} {value : α}
    (found : Text.longestRun belongs accept (text ++ tail) =
      some (run, ⟨value, source, rest ++ tail⟩)) :
    Text.longestRun belongs accept text = some (run, ⟨value, source, rest⟩) := by
  induction text generalizing run with
  | nil =>
    obtain ⟨start, splits, _, accepted⟩ := Text.longestRun_splits found
    have read : start = source ++ (rest ++ tail) := isLocal.faithful accepted
    have lengths := congrArg List.length splits
    simp only [read, List.nil_append, List.length_append] at lengths
    obtain rfl : run = [] := List.length_eq_zero_iff.mp (by omega)
    obtain rfl : start = tail := by simpa using splits.symm
    have here : accept [] = some ⟨value, source, rest⟩ := isLocal.cut accepted
    simp [Text.longestRun, here]
  | cons first text inductionHypothesis =>
    have stops : (accept (first :: text ++ tail)).map (fun result => (([] : Text), result)) =
        some (run, ⟨value, source, rest ++ tail⟩) →
        (accept (first :: text)).map (fun result => (([] : Text), result)) =
          some (run, ⟨value, source, rest⟩) := by
      intro stopped
      simp only [Option.map_eq_some_iff, Prod.mk.injEq] at stopped ⊢
      obtain ⟨_, accepted, rfl, rfl⟩ := stopped
      exact ⟨_, isLocal.cut accepted, rfl, rfl⟩
    by_cases member : belongs first = true
    · simp only [List.cons_append, Text.longestRun, member, if_true] at found ⊢
      cases further : Text.longestRun belongs accept (text ++ tail) with
      | some longer =>
        obtain ⟨longer, result⟩ := longer
        rw [further] at found
        obtain ⟨rfl, rfl⟩ : first :: longer = run ∧ result = ⟨value, source, rest ++ tail⟩ := by
          simpa using found
        rw [inductionHypothesis further]
      | none =>
        rw [further] at found
        rw [longestRun_eq_none_of_append isLocal further]
        exact stops found
    · simp only [List.cons_append, Text.longestRun, member] at found ⊢
      exact stops found

/-- Something local stays local behind white space. -/
theorem afterSpace_isLocal (isLocal : IsLocal closing accept) :
    IsLocal closing (afterSpace accept) where
  faithful := afterSpace_faithful isLocal.faithful
  closes := by
    intro text reading found
    obtain ⟨⟨space, inner⟩, run, rfl⟩ := Option.map_eq_some_iff.mp found
    obtain ⟨_, _, _, accepted⟩ := Text.longestRun_splits run
    exact (isLocal.closes accepted).trans (List.suffix_append space _)
  cut := by
    intro text tail value source rest found
    obtain ⟨⟨space, inner, innerSource, innerRest⟩, run, same⟩ := Option.map_eq_some_iff.mp found
    simp only [Text.Reading.after, Text.Reading.mk.injEq] at same
    obtain ⟨rfl, rfl, rfl⟩ := same
    simp [afterSpace, longestRun_cut isLocal run, Text.Reading.after]
  extend := by
    intro text tail found
    simpa [afterSpace] using longestRun_extend isLocal tail (by simpa [afterSpace] using found)

end Runs

section Bodies

variable {accept : Text → Option (Text.Reading Unit)}

/-- A body that is found is found with a tail behind the text, if perhaps a shorter one. -/
theorem shortestBody_extend (isLocal : IsLocal closing accept) {text : Text} (tail : Text)
    (found : (Text.shortestBody closing accept text).isSome) :
    (Text.shortestBody closing accept (text ++ tail)).isSome := by
  induction text with
  | nil => simp [Text.shortestBody] at found
  | cons first rest inductionHypothesis =>
    -- What is read behind the body leaves room for the delimiter, so none is cut off here.
    have enough : closing.length ≤ (first :: rest).length := by
      obtain ⟨⟨body, reading⟩, bodyFound⟩ := Option.isSome_iff_exists.mp found
      obtain ⟨remainder, splits, _, accepted⟩ := Text.shortestBody_splits bodyFound
      have room := isLocal.length_le (Option.isSome_iff_exists.mpr ⟨_, accepted⟩)
      rw [splits, List.length_append]
      omega
    simp only [Text.shortestBody] at found
    split at found
    · simp at found
    · rename_i opensBody
      have opensBodyStill : ¬ (Text.after? closing (first :: (rest ++ tail))).isSome := fun ends =>
        opensBody (Text.after?_isSome_of_append enough ends)
      simp only [List.cons_append, Text.shortestBody, opensBodyStill]
      cases longer : accept (rest ++ tail) with
      | some reading => simp
      | none =>
        have absent := isLocal.eq_none_of_append longer
        rw [absent] at found
        simpa using inductionHypothesis (by simpa using found)

/-- A body and what is read behind it do not depend on a tail that neither reaches. -/
theorem shortestBody_cut (isLocal : IsLocal closing accept) {text tail body source rest : Text}
    (found : Text.shortestBody closing accept (text ++ tail) =
      some (body, ⟨(), source, rest ++ tail⟩)) :
    Text.shortestBody closing accept text = some (body, ⟨(), source, rest⟩) := by
  induction text generalizing body with
  | nil =>
    obtain ⟨start, splits, nonempty, accepted⟩ := Text.shortestBody_splits found
    have read : start = source ++ (rest ++ tail) := isLocal.faithful accepted
    have positive := List.length_pos_iff.mpr nonempty
    have lengths := congrArg List.length splits
    simp only [read, List.nil_append, List.length_append] at lengths
    omega
  | cons first text inductionHypothesis =>
    simp only [List.cons_append, Text.shortestBody] at found
    split at found
    · simp at found
    · rename_i opensBodyStill
      have opensBody : ¬ (Text.after? closing (first :: text)).isSome := fun ends => by
        obtain ⟨remainder, begins⟩ := Option.isSome_iff_exists.mp ends
        have longer := Text.after?_append tail begins
        rw [List.cons_append] at longer
        simp [longer] at opensBodyStill
      simp only [Text.shortestBody, opensBody]
      cases longer : accept (text ++ tail) with
      | some reading =>
        rw [longer] at found
        obtain ⟨rfl, rfl⟩ : [first] = body ∧ reading = ⟨(), source, rest ++ tail⟩ := by
          simpa using found
        simp [isLocal.cut longer]
      | none =>
        rw [longer] at found
        obtain ⟨⟨shorter, reading⟩, further, same⟩ := Option.map_eq_some_iff.mp found
        obtain ⟨rfl, rfl⟩ : first :: shorter = body ∧ reading = ⟨(), source, rest ++ tail⟩ := by
          simpa using same
        simp [isLocal.eq_none_of_append longer, inductionHypothesis further]

/-- A body is read locally if its end is. -/
theorem bareBody?_isLocal (isLocal : IsLocal closing accept) :
    IsLocal closing (bareBody? closing accept) where
  faithful := by
    intro text reading found
    obtain ⟨⟨body, ending⟩, bodyFound, rfl⟩ := Option.map_eq_some_iff.mp found
    obtain ⟨rest, rfl, _, ended⟩ := Text.shortestBody_splits bodyFound
    exact Text.Reading.splits_after body (Text.Reading.splits_map.mpr (isLocal.faithful ended))
  closes := by
    intro text reading found
    obtain ⟨⟨body, ending⟩, bodyFound, rfl⟩ := Option.map_eq_some_iff.mp found
    obtain ⟨_, _, _, ended⟩ := Text.shortestBody_splits bodyFound
    exact (isLocal.closes ended).trans (List.suffix_append body _)
  cut := by
    intro text tail value source rest found
    obtain ⟨⟨body, ⟨⟩, endSource, endRest⟩, bodyFound, same⟩ := Option.map_eq_some_iff.mp found
    simp only [Text.Reading.map, Text.Reading.after, Text.Reading.mk.injEq] at same
    obtain ⟨rfl, rfl, rfl⟩ := same
    simp [bareBody?, shortestBody_cut isLocal bodyFound, Text.Reading.map, Text.Reading.after]
  extend := by
    intro text tail found
    simpa [bareBody?] using shortestBody_extend isLocal tail (by simpa [bareBody?] using found)

/-- A body behind white space is read locally if its end is. -/
theorem body?_isLocal (isLocal : IsLocal closing accept) :
    IsLocal closing (body? closing accept) := by
  rw [body?_eq_afterSpace]
  exact afterSpace_isLocal (bareBody?_isLocal isLocal)

end Bodies

/-! ## Tags -/

/-- White space and the closing delimiter are read locally. -/
theorem closing?_isLocal (closing : Text) : IsLocal closing (closing? closing) := by
  refine afterSpace_isLocal ⟨?_, ?_, ?_, ?_⟩
  · intro text reading found
    obtain ⟨rest, begins, rfl⟩ := Option.map_eq_some_iff.mp found
    exact Text.after?_eq_some_iff.mp begins
  · intro text reading found
    obtain ⟨rest, begins, rfl⟩ := Option.map_eq_some_iff.mp found
    exact List.suffix_refl closing
  · intro text tail value source rest found
    obtain ⟨remainder, begins, same⟩ := Option.map_eq_some_iff.mp found
    obtain ⟨-, rfl, rfl⟩ := Text.Reading.mk.inj same
    have splits := Text.after?_eq_some_iff.mp begins
    rw [← List.append_assoc] at splits
    simp [Text.after?_eq_some_iff.mpr (List.append_cancel_right splits)]
  · intro text tail found
    obtain ⟨rest, begins⟩ := Option.isSome_iff_exists.mp (by simpa using found)
    simp [Text.after?_append tail begins]

/-- A reader for what stands behind a given code point. -/
def behind (point : CodePoint) (reader : Text → Option (Text.Reading α)) :
    Text → Option (Text.Reading α)
  | [] => none
  | first :: rest => if first = point then (reader rest).map (·.after [point]) else none

/-- Something local stays local behind a code point. -/
theorem behind_isLocal {reader : Text → Option (Text.Reading α)} (point : CodePoint)
    (isLocal : IsLocal closing reader) : IsLocal closing (behind point reader) where
  faithful := by
    intro text reading found
    cases text with
    | nil => simp [behind] at found
    | cons first text =>
      simp only [behind, Option.ite_none_right_eq_some, Option.map_eq_some_iff] at found
      obtain ⟨rfl, inner, read, rfl⟩ := found
      exact Text.Reading.splits_after [first] (isLocal.faithful read)
  closes := by
    intro text reading found
    cases text with
    | nil => simp [behind] at found
    | cons first text =>
      simp only [behind, Option.ite_none_right_eq_some, Option.map_eq_some_iff] at found
      obtain ⟨rfl, inner, read, rfl⟩ := found
      exact (isLocal.closes read).trans (List.suffix_cons first _)
  cut := by
    intro text tail value source rest found
    cases text with
    | nil =>
      -- The code point would have to be taken from the tail.
      cases tail with
      | nil => simp [behind] at found
      | cons first tail =>
        simp only [List.nil_append, behind, Option.ite_none_right_eq_some,
          Option.map_eq_some_iff] at found
        obtain ⟨rfl, inner, read, same⟩ := found
        have splits := congrArg List.length (isLocal.faithful read)
        obtain ⟨-, -, rest_eq⟩ := Text.Reading.mk.inj same
        simp only [rest_eq, List.length_append, List.length_cons] at splits
        omega
    | cons first text =>
      simp only [List.cons_append, behind, Option.ite_none_right_eq_some,
        Option.map_eq_some_iff] at found
      obtain ⟨rfl, ⟨inner, innerSource, innerRest⟩, read, same⟩ := found
      simp only [Text.Reading.after, Text.Reading.mk.injEq] at same
      obtain ⟨rfl, rfl, rfl⟩ := same
      simp [behind, isLocal.cut read, Text.Reading.after]
  extend := by
    intro text tail found
    cases text with
    | nil => simp [behind] at found
    | cons first text =>
      by_cases same : first = point
      · simp only [behind, same, if_true, Option.isSome_map, List.cons_append] at found ⊢
        exact isLocal.extend tail found
      · simp [behind, same] at found

/-- What ends a body in brackets stands behind the right bracket. -/
theorem ending?_eq (closing : Text) (right : CodePoint) :
    ending? closing right = afterSpace (behind right (closing? closing)) := by
  unfold ending?
  congr 1

/-- A body in brackets stands behind the left bracket. -/
theorem between?_eq (closing : Text) (left right : CodePoint) :
    between? closing left right = behind left (body? closing (ending? closing right)) := by
  funext text
  cases text with
  | nil => rfl
  | cons first rest => by_cases same : first = left <;> simp [between?, behind, same]

/-- A body in brackets is read locally. -/
theorem between?_isLocal (closing : Text) (left right : CodePoint) :
    IsLocal closing (between? closing left right) := by
  rw [between?_eq, ending?_eq]
  exact behind_isLocal left
    (body?_isLocal (afterSpace_isLocal (behind_isLocal right (closing?_isLocal closing))))

/-- A reader that tries another one where it fails. -/
def orElse (first second : Text → Option (Text.Reading α)) (text : Text) :
    Option (Text.Reading α) :=
  match first text with
  | some reading => some reading
  | none => second text

/-- Of two local readers the second may be tried where the first one fails. -/
theorem orElse_isLocal {first second : Text → Option (Text.Reading α)}
    (firstLocal : IsLocal closing first) (secondLocal : IsLocal closing second) :
    IsLocal closing (orElse first second) where
  faithful := by
    intro text reading found
    unfold orElse at found
    split at found
    · rename_i read
      exact firstLocal.faithful (read.trans found)
    · exact secondLocal.faithful found
  closes := by
    intro text reading found
    unfold orElse at found
    split at found
    · rename_i read
      exact firstLocal.closes (read.trans found)
    · exact secondLocal.closes found
  cut := by
    intro text tail value source rest found
    unfold orElse at found ⊢
    split at found
    · rename_i read
      rw [firstLocal.cut (read.trans found)]
    · rename_i absent
      rw [firstLocal.eq_none_of_append absent]
      exact secondLocal.cut found
  extend := by
    intro text tail found
    unfold orElse at found ⊢
    split
    · rfl
    · rename_i absent
      rw [firstLocal.eq_none_of_append absent] at found
      exact secondLocal.extend tail found

/-- A body behind no marker. -/
def unmarked? (closing : Text) (text : Text) : Option (Text.Reading Tag) :=
  (body? closing (closing? closing) text).map (Text.Reading.map (Tag.mk (.plain none)))

/-- A body behind no marker is read locally. -/
theorem unmarked?_isLocal (closing : Text) : IsLocal closing (unmarked? closing) :=
  (body?_isLocal (closing?_isLocal closing)).map _

/-- A body behind a given marker. -/
def markedBy? (closing : Text) (marker : CodePoint) : Text → Option (Text.Reading Tag) :=
  behind marker fun text =>
    (body? closing (closing? closing) text).map (Text.Reading.map (Tag.mk (.plain (some marker))))

/-- A body behind a given marker is read locally. -/
theorem markedBy?_isLocal (closing : Text) (marker : CodePoint) :
    IsLocal closing (markedBy? closing marker) :=
  behind_isLocal marker ((body?_isLocal (closing?_isLocal closing)).map _)

/-- What can serve as a marker is tried as one; otherwise there is no marker. -/
theorem marked?_cons (closing : Text) (first : CodePoint) (rest : Text) :
    marked? closing (first :: rest) =
      if Text.isWord first then unmarked? closing (first :: rest)
      else orElse (markedBy? closing first) (unmarked? closing) (first :: rest) := by
  simp only [marked?, unmarked?, orElse, markedBy?, behind, if_true]
  cases body? closing (closing? closing) rest <;> rfl

/-- A body behind a marker or none is read locally. -/
theorem marked?_isLocal (closing : Text) : IsLocal closing (marked? closing) := by
  have unmarked := unmarked?_isLocal closing
  have either := fun marker => orElse_isLocal (markedBy?_isLocal closing marker) unmarked
  refine ⟨fun found => (marked?_splits found).1, ?_, ?_, ?_⟩
  · intro text reading found
    cases text with
    | nil => exact unmarked.closes found
    | cons first rest =>
      rw [marked?_cons] at found
      split at found
      · exact unmarked.closes found
      · exact (either first).closes found
  · intro text tail value source rest found
    obtain ⟨splits, nonempty⟩ := marked?_splits found
    cases text with
    | nil =>
      have lengths := congrArg List.length splits
      have positive := List.length_pos_iff.mpr nonempty
      simp only [List.nil_append, List.length_append] at lengths
      simp only at positive
      omega
    | cons first text =>
      rw [List.cons_append, marked?_cons] at found
      rw [marked?_cons]
      by_cases member : Text.isWord first = true
      · rw [if_pos member, ← List.cons_append] at found
        rw [if_pos member]
        exact unmarked.cut found
      · rw [if_neg member, ← List.cons_append] at found
        rw [if_neg member]
        exact (either first).cut found
  · intro text tail found
    cases text with
    | nil =>
      -- Without a tail there is no body at all.
      simp [marked?, body?] at found
    | cons first text =>
      rw [List.cons_append, marked?_cons]
      rw [marked?_cons] at found
      by_cases member : Text.isWord first = true
      · rw [if_pos member] at found ⊢
        exact unmarked.extend tail found
      · rw [if_neg member] at found ⊢
        exact (either first).extend tail found

/-- The three forms of an interior are tried one after the other. -/
theorem interior?_eq (closing : Text) :
    interior? closing =
      orElse (fun text => (between? closing (.char '=') (.char '=') text).map
          (Text.Reading.map (Tag.mk .change)))
        (orElse (fun text => (between? closing (.char '{') (.char '}') text).map
            (Text.Reading.map (Tag.mk .braced)))
          (marked? closing)) := by
  funext text
  simp only [interior?, orElse]
  cases between? closing (.char '=') (.char '=') text <;>
    cases between? closing (.char '{') (.char '}') text <;> rfl

/-- The interior of a tag is read locally. -/
theorem interior?_isLocal (closing : Text) : IsLocal closing (interior? closing) := by
  rw [interior?_eq]
  exact orElse_isLocal ((between?_isLocal closing _ _).map _)
    (orElse_isLocal ((between?_isLocal closing _ _).map _) (marked?_isLocal closing))

/-- A tag is read locally. -/
theorem read?_isLocal (delimiters : Delimiters) :
    IsLocal delimiters.closing (read? delimiters) := by
  have inside := afterSpace_isLocal (interior?_isLocal delimiters.closing)
  refine ⟨fun found => (read?_splits found).1, ?_, ?_, ?_⟩
  · intro text reading found
    rw [read?_eq, Option.bind_eq_some_iff] at found
    obtain ⟨interior, -, found⟩ := found
    obtain ⟨inner, read, rfl⟩ := Option.map_eq_some_iff.mp found
    exact (inside.closes read).trans (List.suffix_append delimiters.opening _)
  · intro text tail value source rest found
    have splits : text ++ tail = source ++ (rest ++ tail) := (read?_splits found).1
    have splitsHere : text = source ++ rest := by
      rw [← List.append_assoc] at splits
      exact List.append_cancel_right splits
    rw [read?_eq, Option.bind_eq_some_iff] at found
    obtain ⟨interior, begins, found⟩ := found
    obtain ⟨⟨inner, innerSource, innerRest⟩, read, same⟩ := Option.map_eq_some_iff.mp found
    simp only [Text.Reading.after, Text.Reading.mk.injEq] at same
    obtain ⟨rfl, rfl, rfl⟩ := same
    have readFrom : interior = innerSource ++ rest ++ tail := by
      rw [List.append_assoc]
      exact inside.faithful read
    have begins : Text.after? delimiters.opening text = some (innerSource ++ rest) :=
      Text.after?_eq_some_iff.mpr (by rw [splitsHere, List.append_assoc])
    rw [readFrom] at read
    simp [read?_eq, begins, inside.cut read, Text.Reading.after]
  · intro text tail found
    rw [read?_eq] at found ⊢
    cases begins : Text.after? delimiters.opening text with
    | none => simp [begins] at found
    | some interior =>
      rw [begins] at found
      simpa [Text.after?_append tail begins] using inside.extend tail (by simpa using found)

end Tag

end Stencil
