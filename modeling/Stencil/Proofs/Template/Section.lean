import Mathlib.Data.List.Forall2
import Stencil.Proofs.Template.Alone

/-!
# Sections and their source

The blocks of a template are its sections, in the order in which these are closed
(`Passage.sectionsBetween`). The source of a block is the part of the template between the two tags
of its section, or between their lines where they have lines to themselves, and parsing it alone
comes to what the body of the block is.
-/

namespace Stencil

/-- The part of a text between two places. -/
def Text.slice (text : Text) (start stop : Nat) : Text :=
  (text.take stop).drop start

/-- A text between two others is the part between its ends. -/
theorem Text.slice_append (before middle behind : Text) :
    (before ++ (middle ++ behind)).slice before.length (before.length + middle.length) =
      middle := by
  rw [slice, ← List.append_assoc, ← List.length_append, List.take_left, List.drop_left]

namespace Template

/-! ## The sections of a template -/

/-- A tag that asks for no nodes disappears with its line exactly if it has the line to itself. -/
theorem Visit.IsNext.isStandalone_eq {visit : Visit} {delimiters : Delimiters}
    {template passed : Text} (isNext : visit.IsNext delimiters) (solid : delimiters.AreSolid)
    (stands : visit.cursor.Stands template passed)
    (asksNothing : ∀ nodes, visit.request ≠ .emit nodes) :
    (visit.sightingIn template).isStandalone = visit.lineBreak?.isSome := by
  have organises : visit.occurrence.tag.isInterpolation = false :=
    Tag.isInterpolation_eq_false asksNothing
  rw [isNext.isSome_lineBreak?_eq solid stands, Visit.sightingIn_eq stands, Sighting.vanishes]
  change _ = (!visit.occurrence.tag.isInterpolation && _)
  rw [organises, Bool.not_false, Bool.true_and]

/-- A block that is the section between two tags of a template. Its source is the text from where
that ends which disappears with the opening tag to where that begins which disappears with the
closing tag, and parsing its source alone comes to what its body is. -/
inductive SectionBetween (template : Text) : Node → Sighting × Sighting → Prop where
  | block {opening closing : Sighting} {name inverted source delimiters nodes}
      (opens : opening.tag.request [] = .opens name inverted)
      (closes : closing.tag.request [] = .closes name)
      (slice : source = template.slice opening.stop closing.start)
      (alone : ∀ capacity, ∃ others,
        ((Cache.empty capacity).parse delimiters source).result = .ok others ∧
          Node.outlineAll others = Node.outlineAll nodes ∧
          (opening.isStandalone = true → closing.isStandalone = true → others = nodes)) :
      SectionBetween template (.block name inverted source delimiters (some nodes))
        (opening, closing)

/-- The block of a body is the section between the tags of the body. -/
theorem Body.sectionBetween (body : Body) (solid : body.delimiters.AreSolid)
    {template passed : Text} (stands : body.opening.cursor.Stands template passed) :
    SectionBetween template body.block
      (body.opening.sightingIn template, body.closing.sightingIn template) := by
  have innerSolid := body.passage.areSolid solid
  have atBody := body.isNext.stands solid stands
  have atClosing := body.passage.stands solid atBody
  refine .block ?_ ?_ ?_ ?_
  · rw [Visit.request_sightingIn, body.asked]
    rfl
  · rw [Visit.request_sightingIn, body.closingAsked]
    rfl
  · rw [Visit.sightingIn_eq stands, Visit.sightingIn_eq atClosing, body.isNext.stop_eq solid stands,
      body.closingIsNext.start_eq innerSolid atClosing, stands.splits, body.splits]
    have between := Text.slice_append (passed ++ body.opening.text) body.source
      (body.closing.placement.removed ++ body.closing.next.rest)
    simp only [source, List.length_append, List.append_assoc, Nat.add_assoc] at between ⊢
    exact between.symm
  · intro capacity
    rw [Cache.parse_empty]
    obtain ⟨others, parsed, outline⟩ := body.exists_parse_source solid
    refine ⟨others, parsed, outline, fun opening closing => ?_⟩
    rw [body.isNext.isStandalone_eq solid stands (by simp [body.asked])] at opening
    rw [body.closingIsNext.isStandalone_eq innerSolid atClosing (by simp [body.closingAsked])]
      at closing
    have keeps := body.keepsEdges_of_lines solid opening closing
    exact Except.ok.inj (parsed.symm.trans ((body.parse_source_eq_iff solid).mpr keeps))

/-- The blocks of a passage are the sections between its pairs of tags. -/
theorem Passage.sectionsBetween {delimiters active : Delimiters} {cursor last : Cursor}
    {visits : List Visit} {pairs : List (Visit × Visit)} {nodes : List Node}
    (passage : Passage delimiters cursor visits pairs nodes active last)
    (solid : delimiters.AreSolid) {template passed : Text}
    (stands : cursor.Stands template passed) :
    List.Forall₂ (SectionBetween template) (Node.blocks nodes)
      (pairs.map fun (opening, closing) =>
        (opening.sightingIn template, closing.sightingIn template)) := by
  induction passage generalizing passed with
  | stay => exact .nil
  | emit isNext asked _ inductionHypothesis =>
    simpa [blocks_of_request asked] using inductionHypothesis solid (isNext.stands solid stands)
  | change isNext asked _ inductionHypothesis =>
    simpa using inductionHypothesis (areSolid_of_request asked) (isNext.stands solid stands)
  | @block delimiters opening name inverted bodyVisits bodyPairs inner active closing _ _ _ _ _
      isNext asked bodyPassage closingIsNext closingAsked _ inside beyond =>
    let body : Body := ⟨delimiters, opening, name, inverted, bodyVisits, bodyPairs, inner, active,
      closing, isNext, asked, bodyPassage, closingIsNext, closingAsked⟩
    have atBody := isNext.stands solid stands
    have atClosing := bodyPassage.stands solid atBody
    have behind := closingIsNext.stands (bodyPassage.areSolid solid) atClosing
    have whole := body.sectionBetween solid stands
    have blocks := List.rel_append (inside solid atBody) (.cons whole (beyond solid behind))
    simpa [Body.block, Body.source, Body.nodes, body] using blocks

/-- The blocks of a template are its sections, in the order in which these are closed: each has the
text between its tags for its source, and this comes to the block's body if it is parsed alone. -/
theorem blocks_sectionBetween (capacity : Option Nat) {delimiters : Delimiters}
    (solid : delimiters.AreSolid) {template : Text} {nodes : List Node}
    (parsed : ((Cache.empty capacity).parse delimiters template).result = .ok nodes) :
    ∃ final, (Machine.start delimiters template).run = .ok final ∧
      List.Forall₂ (SectionBetween template) (Node.blocks nodes) final.sections := by
  rw [Cache.parse_empty] at parsed
  obtain ⟨visits, pairs, inner, active, last, passage, absent, rfl⟩ := parse_eq_ok_iff.mp parsed
  obtain ⟨final, finished, onward⟩ := exists_final_of_passage solid passage absent
  refine ⟨final, finished, ?_⟩
  rw [onward.sections, Node.blocks_append, Node.blocks_literals, List.append_nil]
  exact passage.sectionsBetween solid (.start template)

/-- The section of the sample is on lines of its own. -/
theorem blocks_sectionBetween_sample :
    Delimiters.standard.AreSolid ∧
      ((Cache.empty none).parse .standard sampleTemplate).result = .ok sampleNodes ∧
      ∃ final, (Machine.start .standard sampleTemplate).run = .ok final ∧
        List.Forall₂ (SectionBetween sampleTemplate) (Node.blocks sampleNodes) final.sections :=
  ⟨by decide, parse_sampleTemplate, blocks_sectionBetween none (by decide) parse_sampleTemplate⟩

end Template

end Stencil
