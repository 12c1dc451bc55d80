import Stencil.Text.Entity

/-!
# Texts that are safe in markup

An escaped text has none of the characters that markup is made of (`Text.Entity.not_mem_escape`),
and where it has an ampersand a reference begins (`Text.Entity.begins_of_mem_escape`).
-/

namespace Stencil.Text.Entity

/-- The references that escaping writes. -/
def references : List Text :=
  ["&amp;", "&lt;", "&gt;", "&quot;", "&#x27;"].map .of

/-- A character that begins or ends a tag or an attribute of markup. -/
def IsMarkup (point : CodePoint) : Prop :=
  point ∈ ([.char '<', .char '>', .char '"', .char '\''] : Text)

instance (point : CodePoint) : Decidable (IsMarkup point) :=
  inferInstanceAs (Decidable (point ∈ _))

/-- A code point becomes a reference, or it is none of those that have one. -/
theorem encode_cases (point : CodePoint) :
    encode point ∈ references ∨
      encode point = [point] ∧ point ≠ .char '&' ∧ ¬IsMarkup point := by
  unfold encode
  split
  · exact .inl (by decide)
  split
  · exact .inl (by decide)
  split
  · exact .inl (by decide)
  split
  · exact .inl (by decide)
  split
  · exact .inl (by decide)
  · rename_i ampersand less greater quote apostrophe
    exact .inr ⟨rfl, ampersand, by simp [IsMarkup, less, greater, quote, apostrophe]⟩

/-- A reference begins with an ampersand. There is no other one in it, and no markup. -/
theorem reference_eq_cons : ∀ reference ∈ references,
    reference = .char '&' :: reference.tail ∧ .char '&' ∉ reference.tail ∧
      ∀ point ∈ reference, ¬IsMarkup point := by
  decide

/-- There is no markup in an escaped text. -/
theorem not_mem_escape {point : CodePoint} (isMarkup : IsMarkup point) (text : Text) :
    point ∉ escape text := by
  intro member
  obtain ⟨source, -, member⟩ := List.mem_flatMap.mp member
  rcases encode_cases source with isReference | ⟨same, -, notMarkup⟩
  · exact (reference_eq_cons _ isReference).2.2 point member isMarkup
  · rw [same, List.mem_singleton] at member
    exact notMarkup (member ▸ isMarkup)

/-- Every ampersand in an escaped text begins a reference. -/
theorem begins_of_mem_escape {text before behind : Text}
    (splits : escape text = before ++ .char '&' :: behind) :
    ∃ reference ∈ references, reference <+: .char '&' :: behind := by
  induction text generalizing before with
  | nil => simp [escape] at splits
  | cons point text inductionHypothesis =>
    have first : escape (point :: text) = encode point ++ escape text :=
      List.flatMap_cons
    rw [first, List.append_eq_append_iff] at splits
    rcases splits with ⟨further, rfl, rest⟩ | ⟨further, encoded, rest⟩
    · exact inductionHypothesis rest
    cases further with
    | nil => exact @inductionHypothesis [] rest.symm
    | cons ampersand further =>
      -- The ampersand is in what the first code point became.
      obtain ⟨rfl, rfl⟩ := List.cons.inj rest
      rcases encode_cases point with isReference | ⟨same, notAmpersand, -⟩
      · obtain ⟨begins, onlyFirst, -⟩ := reference_eq_cons _ isReference
        cases before with
        | nil => exact ⟨_, isReference, by rw [encoded]; exact ⟨escape text, rfl⟩⟩
        | cons head before => exact absurd (by simp [encoded]) onlyFirst
      · rw [same] at encoded
        cases before with
        | nil => exact absurd (List.cons.inj encoded).1 notAmpersand
        | cons head before => simp at encoded

end Stencil.Text.Entity
