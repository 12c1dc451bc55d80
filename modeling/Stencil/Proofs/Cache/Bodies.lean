import Stencil.Proofs.Cache.History

/-!
# Blocks with their bodies

A block whose body has not been parsed yet is parsed when it is rendered. Parsing makes no such
blocks (`Template.Passage.hasBodies`), neither for templates nor for the bodies of sections, and so
there is none in a cache that only parses and renderings have filled (`Cache.hasBodies_of_parse`).
-/

namespace Stencil

/-- A node in which every block has its body, at any depth. -/
inductive Node.HasBodies : Node → Prop where
  | literal (text : Text) : HasBodies (.literal text)
  | interpolation (name : Text) (escaped : Bool) : HasBodies (.interpolation name escaped)
  | block {body} (name : Text) (inverted : Bool) (source : Text) (delimiters : Delimiters)
      (inside : ∀ node ∈ body, HasBodies node) :
      HasBodies (.block name inverted source delimiters (some body))
  | inclusion (name indent : Text) : HasBodies (.inclusion name indent)
  | foreign (value : Value) : HasBodies (.foreign value)

/-- Literal nodes are no blocks. -/
theorem Node.hasBodies_literals (text : Text) : ∀ node ∈ literals text, node.HasBodies := by
  unfold literals
  split
  · simp
  · simpa using .literal text

/-- What a tag asks for are no blocks. -/
theorem Tag.hasBodies_request (indent : Text) (tag : Tag) :
    ∀ node ∈ (tag.request indent).nodes, node.HasBodies := by
  unfold Tag.request
  repeat' split
  all_goals simp [Request.nodes, Node.HasBodies.interpolation, Node.HasBodies.inclusion]

namespace Template

/-- What is kept in front of a tag are no blocks. -/
theorem Visit.hasBodies_kept (visit : Visit) :
    ∀ node ∈ visit.placement.kept, node.HasBodies := by
  intro node isKept
  rw [visit.kept_eq] at isKept
  rcases List.mem_append.mp isKept with isContent | isBlank
  · exact Node.hasBodies_literals _ node isContent
  · split at isBlank
    · cases isBlank
    · exact Node.hasBodies_literals _ node isBlank

/-- The blocks of a passage have their bodies. -/
theorem Passage.hasBodies {delimiters active : Delimiters} {cursor last : Cursor}
    {visits : List Visit} {pairs : List (Visit × Visit)} {nodes : List Node}
    (passage : Passage delimiters cursor visits pairs nodes active last) :
    ∀ node ∈ nodes, node.HasBodies := by
  induction passage with
  | stay => simp
  | @emit _ visit _ _ _ _ _ _ _ asked _ inductionHypothesis =>
    have emitted : ∀ node ∈ visit.request.nodes, node.HasBodies := Tag.hasBodies_request _ _
    rw [asked] at emitted
    simp only [List.mem_append]
    rintro node ((isKept | isEmitted) | further)
    · exact visit.hasBodies_kept node isKept
    · exact emitted node isEmitted
    · exact inductionHypothesis node further
  | @change _ visit _ _ _ _ _ _ _ _ _ inductionHypothesis =>
    simp only [List.mem_append]
    rintro node (isKept | further)
    · exact visit.hasBodies_kept node isKept
    · exact inductionHypothesis node further
  | @block _ opening _ _ _ _ _ _ closing _ _ _ _ _ _ _ _ _ _ _ inside beyond =>
    simp only [List.mem_append, List.mem_cons]
    rintro node (isKept | rfl | further)
    · exact opening.hasBodies_kept node isKept
    · refine .block _ _ _ _ fun inner isInside => ?_
      rcases List.mem_append.mp isInside with isBody | isKept
      · exact inside inner isBody
      · exact closing.hasBodies_kept inner isKept
    · exact beyond node further

/-- The blocks of a body have their bodies. -/
theorem Body.hasBodies (body : Body) : ∀ node ∈ body.nodes, node.HasBodies := by
  intro node isInside
  rcases List.mem_append.mp isInside with isInner | isKept
  · exact body.passage.hasBodies node isInner
  · exact body.closing.hasBodies_kept node isKept

/-- The blocks of a template have their bodies. -/
theorem hasBodies_of_parse {delimiters : Delimiters} {template : Text} {nodes : List Node}
    (parsed : (parse delimiters template).2 = .ok nodes) : ∀ node ∈ nodes, node.HasBodies := by
  obtain ⟨visits, pairs, inner, active, last, passage, -, rfl⟩ := parse_eq_ok_iff.mp parsed
  intro node isNode
  rcases List.mem_append.mp isNode with isInner | isLiteral
  · exact passage.hasBodies node isInner
  · exact Node.hasBodies_literals _ node isLiteral

end Template

namespace Cache

/-- The blocks in a cache have their bodies, after any calls. -/
theorem contains_hasBodies (capacity : Option Nat) (calls : List Call) :
    Contains (fun _ nodes => ∀ node ∈ nodes, node.HasBodies) (after capacity calls) := by
  apply Contains.after
  apply Contains.invariant
  · exact fun _ _ _ parsed => Template.hasBodies_of_parse parsed
  · exact Template.Body.hasBodies

/-- What parsing through a cache comes to has its bodies, after any calls. -/
theorem hasBodies_of_parse {capacity : Option Nat} {calls : List Call} {delimiters : Delimiters}
    {template : Text} {nodes : List Node}
    (parsed : ((after capacity calls).parse delimiters template).result = .ok nodes) :
    ∀ node ∈ nodes, node.HasBodies := by
  cases found : (after capacity calls).find? (.of delimiters template) with
  | none =>
    rw [parse_of_absent found] at parsed
    exact Template.hasBodies_of_parse parsed
  | some kept =>
    rw [parse_of_present found] at parsed
    cases parsed
    exact (contains_hasBodies capacity calls).find? found

end Cache

end Stencil
