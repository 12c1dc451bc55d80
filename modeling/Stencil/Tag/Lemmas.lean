import Stencil.Tag.Basic

/-!
# What reading a tag says of the text

A reading of a tag splits the text at the end of the tag, and a tag takes up at least one character
(`Tag.read?_splits`). No reader of a part that goes on to the closing delimiter accepts a text
without one, so a tag can be looked for as if that were not asked first (`Tag.read?_eq`). In the
same way a body behind white space is a body behind as much white space as possible
(`Tag.body?_eq_afterSpace`).
-/

namespace Stencil

namespace Tag

/-! ## Bodies -/

/-- A body stands behind as much white space as leaves a body. -/
theorem body?_eq_afterSpace (closing : Text) (accept : Text → Option (Text.Reading Unit)) :
    body? closing accept = afterSpace (bareBody? closing accept) := by
  funext text
  induction text with
  | nil => rfl
  | cons first rest inductionHypothesis =>
    have nothing : afterSpace (bareBody? closing accept) rest = none →
        Text.shortestBody closing accept rest = none := by
      intro failed
      cases rest with
      | nil => rfl
      | cons second others =>
        simp only [afterSpace, Option.map_eq_none_iff, Text.longestRun] at failed
        by_cases blank : Text.isSpace second = true
        · simp only [blank, if_true] at failed
          split at failed
          · simp at failed
          · simpa [bareBody?] using failed
        · simpa [blank, bareBody?] using failed
    by_cases blank : Text.isSpace first = true
    · simp only [body?, blank, if_true, inductionHypothesis]
      cases found : afterSpace (bareBody? closing accept) rest with
      | some reading =>
        simp only [afterSpace, Option.map_eq_some_iff] at found
        obtain ⟨⟨space, inner⟩, run, rfl⟩ := found
        simp [afterSpace, Text.longestRun, blank, run, Text.Reading.after]
      | none =>
        have failed := nothing found
        simp only [afterSpace, Option.map_eq_none_iff] at found
        simp only [afterSpace, Text.longestRun, blank, if_true, found, bareBody?,
          Text.shortestBody, failed]
        split
        · rfl
        · cases accept rest <;> rfl
    · simp only [body?, blank, afterSpace, Text.longestRun]
      cases bareBody? closing accept (first :: rest) <;> rfl

/-! ## Where a tag ends -/

/-- A reader whose readings split what they are read from. -/
def Faithful {α : Type} (reader : Text → Option (Text.Reading α)) : Prop :=
  ∀ {text : Text} {reading : Text.Reading α}, reader text = some reading → reading.Splits text

/-- A faithful reader stays faithful behind white space. -/
theorem afterSpace_faithful {α : Type} {accept : Text → Option (Text.Reading α)}
    (faithful : Faithful accept) : Faithful (afterSpace accept) := by
  intro text reading found
  simp only [afterSpace, Option.map_eq_some_iff] at found
  obtain ⟨⟨space, _⟩, run, rfl⟩ := found
  obtain ⟨rest, rfl, _, accepted⟩ := Text.longestRun_splits run
  exact Text.Reading.splits_after space (faithful accepted)

/-- What ends a tag splits the text behind the delimiter. -/
theorem closing?_faithful (closing : Text) : Faithful (closing? closing) := by
  refine afterSpace_faithful fun {text reading} found => ?_
  simp only [Option.map_eq_some_iff, Text.after?_eq_some_iff] at found
  obtain ⟨rest, rfl, rfl⟩ := found
  rfl

/-- What ends a body in brackets splits the text behind the delimiter. -/
theorem ending?_faithful (closing : Text) (right : CodePoint) :
    Faithful (ending? closing right) := by
  refine afterSpace_faithful fun {text reading} found => ?_
  split at found
  · simp at found
  · split at found
    · rename_i same
      simp only [Option.map_eq_some_iff] at found
      obtain ⟨ending, closed, rfl⟩ := found
      exact same ▸ Text.Reading.splits_after [_] (closing?_faithful closing closed)
    · simp at found

/-- A body splits the text behind its end, and something was read. -/
theorem body?_splits {closing text : Text} {accept : Text → Option (Text.Reading Unit)}
    {reading : Text.Reading Text} (faithful : Faithful accept)
    (found : body? closing accept text = some reading) :
    reading.Splits text ∧ reading.source ≠ [] := by
  simp only [body?_eq_afterSpace, afterSpace, Option.map_eq_some_iff] at found
  obtain ⟨⟨space, inner⟩, run, rfl⟩ := found
  obtain ⟨rest, rfl, _, accepted⟩ := Text.longestRun_splits run
  simp only [bareBody?, Option.map_eq_some_iff] at accepted
  obtain ⟨⟨body, ending⟩, bodyFound, rfl⟩ := accepted
  obtain ⟨remainder, rfl, nonempty, ended⟩ := Text.shortestBody_splits bodyFound
  refine ⟨Text.Reading.splits_after space (Text.Reading.splits_after body ?_), ?_⟩
  · exact Text.Reading.splits_map.mpr (faithful ended)
  · simp [Text.Reading.after, nonempty]

/-- A body between characters splits the text behind its end, and something was read. -/
theorem between?_splits {closing text : Text} {left right : CodePoint} {reading : Text.Reading Text}
    (found : between? closing left right text = some reading) :
    reading.Splits text ∧ reading.source ≠ [] := by
  cases text with
  | nil => simp [between?] at found
  | cons first rest =>
    simp only [between?] at found
    split at found
    · rename_i same
      simp only [Option.map_eq_some_iff] at found
      obtain ⟨inner, bodyFound, rfl⟩ := found
      have splits := (body?_splits (ending?_faithful closing right) bodyFound).1
      exact ⟨same ▸ Text.Reading.splits_after [_] splits, by simp [Text.Reading.after]⟩
    · simp at found

/-- A body behind a marker splits the text behind its end, and something was read. -/
theorem marked?_splits {closing text : Text} {reading : Text.Reading Tag}
    (found : marked? closing text = some reading) :
    reading.Splits text ∧ reading.source ≠ [] := by
  have unmarked : (body? closing (closing? closing) text).map (·.map (Tag.mk (.plain none))) =
      some reading → reading.Splits text ∧ reading.source ≠ [] := by
    intro taken
    simp only [Option.map_eq_some_iff] at taken
    obtain ⟨inner, bodyFound, rfl⟩ := taken
    exact body?_splits (closing?_faithful closing) bodyFound
  cases text with
  | nil => exact unmarked found
  | cons first rest =>
    simp only [marked?] at found
    split at found
    · exact unmarked found
    · split at found
      · rename_i inner bodyFound
        obtain rfl := Option.some.inj found
        have splits := (body?_splits (closing?_faithful closing) bodyFound).1
        exact ⟨Text.Reading.splits_after [first] splits, by simp [Text.Reading.after]⟩
      · exact unmarked found

/-- The interior of a tag splits the text behind the closing delimiter, and something was read. -/
theorem interior?_splits {closing text : Text} {reading : Text.Reading Tag}
    (found : interior? closing text = some reading) :
    reading.Splits text ∧ reading.source ≠ [] := by
  simp only [interior?] at found
  split at found
  · rename_i inner bodyFound
    obtain rfl := Option.some.inj found
    exact between?_splits bodyFound
  · split at found
    · rename_i inner bodyFound
      obtain rfl := Option.some.inj found
      exact between?_splits bodyFound
    · exact marked?_splits found

/-- A tag splits the text that it begins, and takes up at least one character. -/
theorem read?_splits {delimiters : Delimiters} {text : Text} {reading : Text.Reading Tag}
    (found : read? delimiters text = some reading) :
    reading.Splits text ∧ reading.source ≠ [] := by
  simp only [read?, Option.bind_eq_some_iff, Text.after?_eq_some_iff] at found
  obtain ⟨inside, rfl, found⟩ := found
  split at found
  · simp only [afterSpace, Option.map_eq_some_iff] at found
    obtain ⟨_, ⟨⟨space, reading⟩, run, rfl⟩, rfl⟩ := found
    obtain ⟨text, rfl, _, read⟩ := Text.longestRun_splits run
    obtain ⟨splits, nonempty⟩ := interior?_splits read
    exact ⟨Text.Reading.splits_after _ (Text.Reading.splits_after _ splits),
      by simp [Text.Reading.after, nonempty]⟩
  · simp at found

/-! ## Closing delimiters -/

/-- A reader that accepts nothing without a closing delimiter. -/
def Closes {α : Type} (closing : Text) (reader : Text → Option (Text.Reading α)) : Prop :=
  ∀ {text : Text} {reading : Text.Reading α}, reader text = some reading →
    Text.holds closing text = true

/-- What needs a closing delimiter needs one behind white space. -/
theorem afterSpace_closes {α : Type} {closing : Text} {accept : Text → Option (Text.Reading α)}
    (closes : Closes closing accept) : Closes closing (afterSpace accept) := by
  intro text reading found
  simp only [afterSpace, Option.map_eq_some_iff] at found
  obtain ⟨⟨space, _⟩, run, rfl⟩ := found
  obtain ⟨rest, rfl, _, accepted⟩ := Text.longestRun_splits run
  exact Text.holds_append space (closes accepted)

/-- What ends a tag is the closing delimiter. -/
theorem closing?_closes (closing : Text) : Closes closing (closing? closing) := by
  refine afterSpace_closes fun {text reading} found => ?_
  simp only [Option.map_eq_some_iff] at found
  obtain ⟨rest, begins, rfl⟩ := found
  exact Text.holds_of_after? begins

/-- What ends a body in brackets goes on to the closing delimiter. -/
theorem ending?_closes (closing : Text) (right : CodePoint) :
    Closes closing (ending? closing right) := by
  refine afterSpace_closes fun {text reading} found => ?_
  cases text with
  | nil => simp at found
  | cons first rest =>
    simp only at found
    split at found
    · simp only [Option.map_eq_some_iff] at found
      obtain ⟨ending, closed, rfl⟩ := found
      exact Text.holds_append [first] (closing?_closes closing closed)
    · simp at found

/-- A body needs what its end needs. -/
theorem body?_closes {closing : Text} {accept : Text → Option (Text.Reading Unit)}
    (closes : Closes closing accept) : Closes closing (body? closing accept) := by
  rw [body?_eq_afterSpace]
  refine afterSpace_closes fun {text reading} found => ?_
  simp only [bareBody?, Option.map_eq_some_iff] at found
  obtain ⟨⟨body, ending⟩, bodyFound, rfl⟩ := found
  obtain ⟨rest, rfl, _, ended⟩ := Text.shortestBody_splits bodyFound
  exact Text.holds_append body (closes ended)

/-- A body in brackets needs a closing delimiter behind it. -/
theorem between?_closes (closing : Text) (left right : CodePoint) :
    Closes closing (between? closing left right) := by
  intro text reading found
  cases text with
  | nil => simp [between?] at found
  | cons first rest =>
    simp only [between?] at found
    split at found
    · simp only [Option.map_eq_some_iff] at found
      obtain ⟨inner, bodyFound, rfl⟩ := found
      exact Text.holds_append [first] (body?_closes (ending?_closes closing right) bodyFound)
    · simp at found

/-- A body behind a marker needs a closing delimiter behind it. -/
theorem marked?_closes (closing : Text) : Closes closing (marked? closing) := by
  intro text reading found
  have closes : Closes closing (body? closing (closing? closing)) :=
    body?_closes (closing?_closes closing)
  have unmarked : (body? closing (closing? closing) text).map (·.map (Tag.mk (.plain none))) =
      some reading → Text.holds closing text = true := by
    intro taken
    simp only [Option.map_eq_some_iff] at taken
    obtain ⟨inner, bodyFound, rfl⟩ := taken
    exact closes bodyFound
  cases text with
  | nil => exact unmarked found
  | cons first rest =>
    simp only [marked?] at found
    split at found
    · exact unmarked found
    · split at found
      · rename_i inner bodyFound
        exact Text.holds_append [first] (closes bodyFound)
      · exact unmarked found

/-- The interior of a tag needs a closing delimiter behind it. -/
theorem interior?_closes (closing : Text) : Closes closing (interior? closing) := by
  intro text reading found
  simp only [interior?] at found
  split at found
  · rename_i inner bodyFound
    exact between?_closes closing (.char '=') (.char '=') bodyFound
  · split at found
    · rename_i inner bodyFound
      exact between?_closes closing (.char '{') (.char '}') bodyFound
    · exact marked?_closes closing found

/-- A tag is the opening delimiter, white space and an interior. -/
theorem read?_eq (delimiters : Delimiters) (text : Text) :
    read? delimiters text = (Text.after? delimiters.opening text).bind fun inside =>
      (afterSpace (interior? delimiters.closing) inside).map (·.after delimiters.opening) := by
  unfold read?
  congr 1
  funext inside
  split
  · rfl
  · rename_i absent
    cases found : afterSpace (interior? delimiters.closing) inside with
    | none => rfl
    | some reading =>
      exact absurd (afterSpace_closes (interior?_closes delimiters.closing) found) absent

end Tag

end Stencil
