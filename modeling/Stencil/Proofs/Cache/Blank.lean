import Stencil.Proofs.Cache.Bodies

/-!
# The empty text

In an empty text there is nothing to be parsed (`Template.parse_nil`), and a section without a text
in it has no nodes (`Template.Body.nodes_eq_nil`). So a cache that only parses and renderings have
filled has no nodes for the empty text, and parsing it comes to none (`Cache.IsBlank.parse_eq_nil`).
A lambda that answers with an empty text is written over with it (`Render.interpolation_of_blank`).
-/

namespace Stencil

namespace Template

/-- A passage that takes up nothing comes to nothing. -/
theorem Passage.nodes_eq_nil {delimiters active : Delimiters} {cursor last : Cursor}
    {visits : List Visit} {pairs : List (Visit × Visit)} {nodes : List Node}
    (passage : Passage delimiters cursor visits pairs nodes active last)
    (isEmpty : Visit.textOf visits = []) : nodes = [] := by
  cases passage with
  | stay => rfl
  | emit isNext =>
    rw [Visit.textOf_cons] at isEmpty
    exact absurd (List.append_eq_nil_iff.mp isEmpty).1 isNext.text_ne_nil
  | change isNext =>
    rw [Visit.textOf_cons] at isEmpty
    exact absurd (List.append_eq_nil_iff.mp isEmpty).1 isNext.text_ne_nil
  | block isNext =>
    rw [Visit.textOf_cons] at isEmpty
    exact absurd (List.append_eq_nil_iff.mp isEmpty).1 isNext.text_ne_nil

/-- Where no text is kept before a tag, no nodes are. -/
theorem Visit.kept_eq_nil {visit : Visit} (isEmpty : visit.placement.keptSource = []) :
    visit.placement.kept = [] := by
  rw [visit.keptSource_eq] at isEmpty
  obtain ⟨noContent, noBlank⟩ := List.append_eq_nil_iff.mp isEmpty
  rw [visit.kept_eq, noContent]
  split
  · rfl
  · rename_i stays
    rw [if_neg stays] at noBlank
    rw [noBlank]
    rfl

/-- The body of a section without a text has no nodes. -/
theorem Body.nodes_eq_nil (body : Body) (isEmpty : body.source = []) : body.nodes = [] := by
  obtain ⟨noVisits, nothingKept⟩ := List.append_eq_nil_iff.mp isEmpty
  rw [Body.nodes, body.passage.nodes_eq_nil noVisits, Visit.kept_eq_nil nothingKept]
  rfl

/-- In an empty text there is nothing to be parsed. -/
theorem parse_nil (delimiters : Delimiters) : (parse delimiters []).2 = .ok [] := by
  have noTag : Tag.find? delimiters (Cursor.start []).rest = none := by
    cases found : Tag.find? delimiters (Cursor.start []).rest with
    | none => rfl
    | some occurrence => exact absurd (Tag.find?_rest_shorter found) (Nat.not_lt_zero _)
  have level := @parts_of_absent none delimiters (.start []) noTag
  have nodes : (parse delimiters []).2 =
      (parseLevel none delimiters (.start [])).2.map Level.nodes := rfl
  obtain ⟨levelParsed, parsed, same⟩ := exists_of_map_eq_ok level
  rw [nodes, parsed]
  exact congrArg (fun parts : Parts => Except.ok parts.nodes) same

end Template

namespace Cache

/-- A cache has no nodes for an empty text. -/
def IsBlank (cache : Cache) : Prop :=
  Contains (fun key nodes => key.source = [] → nodes = []) cache

/-- There are no nodes for an empty text, whatever rendering does to a store. -/
theorem invariant_isBlank : Store.Invariant fun store => store.cache.IsBlank := by
  apply Contains.invariant
  · intro delimiters template nodes parsed isEmpty
    obtain rfl : template = [] := isEmpty
    rw [Template.parse_nil] at parsed
    exact (Except.ok.inj parsed).symm
  · exact Template.Body.nodes_eq_nil

/-- After any calls a cache has no nodes for an empty text. -/
theorem isBlank_after (capacity : Option Nat) (calls : List Call) :
    (after capacity calls).IsBlank :=
  Contains.after invariant_isBlank capacity calls

/-- Parsing an empty text through such a cache comes to no nodes. -/
theorem IsBlank.parse_eq_nil {cache : Cache} (isBlank : cache.IsBlank) (delimiters : Delimiters) :
    (cache.parse delimiters []).result = .ok [] := by
  cases found : cache.find? (.of delimiters []) with
  | none => rw [parse_of_absent found, Template.parse_nil]
  | some nodes =>
    obtain rfl : nodes = [] := isBlank.find? found rfl
    exact parse_of_present found

end Cache

namespace Render

variable {depth : Nat} {partials : Partials} {name : Text} {function : Value}
  {session answered : Session}

/-- A lambda that answers with an empty text is evaluated to it. -/
theorem evaluation_of_blank
    (called : call function 1 [] (expand (generate (depth + 1)) partials .standard) session =
      (.ok (.text []), answered)) (isBlank : answered.store.cache.IsBlank) :
    evaluation (generate (depth + 1)) partials function session =
      (.ok [], (parse .standard [] answered).2) := by
  have shown : displayed (.text []) answered = (.ok [], answered) := rfl
  have parsed : parse .standard [] answered = (.ok [], (parse .standard [] answered).2) := by
    refine Prod.ext ?_ rfl
    change (answered.store.cache.parse .standard []).result.mapError Failure.malformed = .ok []
    rw [isBlank.parse_eq_nil]
    rfl
  unfold evaluation
  rw [bind_of_ok called, bind_of_ok shown]
  unfold expand
  rw [bind_of_ok parsed]
  rfl

/-- A lambda that answers with an empty text is written over with it. -/
theorem interpolation_of_blank {distance address : Nat} (escaped : Bool)
    (found : Context.find? session.store name session.frames =
      some (distance, .mapping address, .stored function)) (isLambda : function.kind = .lambda)
    (called : call function 1 [] (expand (generate (depth + 1)) partials .standard) session =
      (.ok (.text []), answered)) (isBlank : answered.store.cache.IsBlank) :
    interpolation (generate (depth + 1)) partials name escaped session =
      (.ok [], { (parse .standard [] answered).2 with
        store := (parse .standard [] answered).2.store.write address name (.text []) }) := by
  have looked : lookup (generate (depth + 1)) name session.frames session =
      (.ok (some (.mapping address), function), session) := by
    unfold lookup
    rw [bind_of_get, found]
    rfl
  have settled : settle (generate (depth + 1)) partials (some (.mapping address)) name function
      session = (.ok [], { (parse .standard [] answered).2 with
        store := (parse .standard [] answered).2.store.write address name (.text []) }) := by
    unfold settle
    rw [bind_of_ok (evaluation_of_blank called isBlank)]
    rfl
  rw [interpolation_eq, bind_of_get, bind_of_ok looked]
  dsimp only
  rw [if_pos isLambda, bind_of_ok settled]
  cases escaped <;> rfl

end Render

end Stencil
