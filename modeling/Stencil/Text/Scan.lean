import Stencil.Text.Basic

/-!
# Scanning with a condition on what follows

A tag is found by scanning whose choices depend on whether the rest can be read. Two scans suffice.
`longestRun` takes as many leading code points of a class as the rest permits, `shortestBody` takes
as few code points as the rest permits and never runs over a fixed closing text. Each is given the
reader of the rest, so that a choice is revised exactly when that reader refuses.

A reader of the front of a text tells what it read, how that is written, and what follows. Such a
reading is faithful if the last two make up the text (`Reading.Splits`).
-/

namespace Stencil.Text

variable {α : Type}

/-- Something read from the front of a text. -/
structure Reading (α : Type) where
  value : α
  /-- How it is written. -/
  source : Text
  /-- What follows it. -/
  rest : Text
  deriving DecidableEq, Repr

namespace Reading

/-- A reading splits a text into what was read and what follows. -/
def Splits (text : Text) (reading : Reading α) : Prop :=
  text = reading.source ++ reading.rest

/-- A reading with a text that was read before it. -/
def after (before : Text) (reading : Reading α) : Reading α :=
  { reading with source := before ++ reading.source }

/-- A reading of something else in the same place. -/
def map {β : Type} (change : α → β) (reading : Reading α) : Reading β :=
  ⟨change reading.value, reading.source, reading.rest⟩

/-- What is read behind a text splits the whole. -/
theorem splits_after {text : Text} {reading : Reading α} (before : Text)
    (splits : Splits text reading) : Splits (before ++ text) (reading.after before) := by
  simp only [Splits, after] at *
  simp [← splits]

/-- Where a text splits does not depend on what is made of it. -/
@[simp] theorem splits_map {β : Type} {text : Text} {reading : Reading α} {change : α → β} :
    Splits text (reading.map change) ↔ Splits text reading :=
  Iff.rfl

end Reading

/-- The longest leading run of code points of a class whose remainder the reader accepts. -/
def longestRun (belongs : CodePoint → Bool) (accept : Text → Option α) : Text → Option (Text × α)
  | [] => (accept []).map fun result => ([], result)
  | first :: rest =>
    if belongs first then
      match longestRun belongs accept rest with
      | some (run, result) => some (first :: run, result)
      | none => (accept (first :: rest)).map fun result => ([], result)
    else (accept (first :: rest)).map fun result => ([], result)

/-- The shortest leading text, not empty and with no occurrence of the closing text beginning
inside it, whose remainder the reader accepts. -/
def shortestBody (closing : Text) (accept : Text → Option α) : Text → Option (Text × α)
  | [] => none
  | first :: rest =>
    if (after? closing (first :: rest)).isSome then none
    else match accept rest with
      | some result => some ([first], result)
      | none => (shortestBody closing accept rest).map fun (body, result) => (first :: body, result)

/-- A run splits off the front of the text, and the reader accepted what is left. -/
theorem longestRun_splits {belongs : CodePoint → Bool} {accept : Text → Option α} {text run : Text}
    {result : α} (found : longestRun belongs accept text = some (run, result)) :
    ∃ rest, text = run ++ rest ∧ (∀ point ∈ run, belongs point = true) ∧
      accept rest = some result := by
  induction text generalizing run with
  | nil =>
    simp only [longestRun, Option.map_eq_some_iff, Prod.mk.injEq] at found
    obtain ⟨_, accepted, rfl, rfl⟩ := found
    exact ⟨[], rfl, by simp, accepted⟩
  | cons first rest inductionHypothesis =>
    have stopHere : ∀ {run : Text},
        (accept (first :: rest)).map (fun result => (([] : Text), result)) = some (run, result) →
        ∃ remainder, first :: rest = run ++ remainder ∧
          (∀ point ∈ run, belongs point = true) ∧ accept remainder = some result := by
      intro run stopped
      simp only [Option.map_eq_some_iff, Prod.mk.injEq] at stopped
      obtain ⟨_, accepted, rfl, rfl⟩ := stopped
      exact ⟨first :: rest, rfl, by simp, accepted⟩
    by_cases member : belongs first = true
    · simp only [longestRun, member, if_true] at found
      cases longer : longestRun belongs accept rest with
      | none => rw [longer] at found; exact stopHere found
      | some pair =>
        rw [longer] at found
        obtain ⟨longerRun, longerResult⟩ := pair
        simp only [Option.some.injEq, Prod.mk.injEq] at found
        obtain ⟨rfl, rfl⟩ := found
        obtain ⟨remainder, splits, members, accepted⟩ := inductionHypothesis longer
        exact ⟨remainder, by simp [splits], by simpa [member] using members, accepted⟩
    · simp only [longestRun, member] at found
      exact stopHere (by simpa using found)

/-- A body splits off the front of the text, is not empty, and the reader accepted what is left. -/
theorem shortestBody_splits {closing : Text} {accept : Text → Option α} {text body : Text}
    {result : α} (found : shortestBody closing accept text = some (body, result)) :
    ∃ rest, text = body ++ rest ∧ body ≠ [] ∧ accept rest = some result := by
  induction text generalizing body with
  | nil => simp [shortestBody] at found
  | cons first rest inductionHypothesis =>
    simp only [shortestBody] at found
    split at found
    · simp at found
    · cases accepted : accept rest with
      | some value =>
        simp only [accepted, Option.some.injEq, Prod.mk.injEq] at found
        obtain ⟨rfl, rfl⟩ := found
        exact ⟨rest, rfl, by simp, accepted⟩
      | none =>
        simp only [accepted, Option.map_eq_some_iff, Prod.mk.injEq] at found
        obtain ⟨⟨shorter, _⟩, further, rfl, rfl⟩ := found
        obtain ⟨remainder, splits, _, acceptedLater⟩ := inductionHypothesis further
        exact ⟨remainder, by simp [splits], by simp, acceptedLater⟩

end Stencil.Text
