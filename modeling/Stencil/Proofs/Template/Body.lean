import Stencil.Proofs.Template.Passage

/-!
# Bodies of sections

The body of a section is parsed where it stands, from its opening tag up to its closing tag. A
`Body` is such a part of a parse. Every body that a parse reports, also one that fails later, is one
of the template (`exists_body_of_mem_events`), and its text is shorter than the template
(`Body.source_shorter`).
-/

namespace Stencil.Template

/-- The body of a section, between its two tags. -/
structure Body where
  /-- The delimiters of the opening tag, with which the body begins. -/
  delimiters : Delimiters
  opening : Visit
  name : Text
  inverted : Bool
  /-- The tags in the body, and the tags of its sections. -/
  visits : List Visit
  pairs : List (Visit × Visit)
  /-- The nodes up to the closing tag, without the text before it. -/
  inner : List Node
  /-- The delimiters of the closing tag. -/
  active : Delimiters
  closing : Visit
  isNext : opening.IsNext delimiters
  asked : opening.request = .opens name inverted
  passage : Passage delimiters opening.next visits pairs inner active closing.cursor
  closingIsNext : closing.IsNext active
  closingAsked : closing.request = .closes name

namespace Body

/-- The text of a body. -/
def source (body : Body) : Text :=
  Visit.textOf body.visits ++ body.closing.placement.keptSource

/-- The nodes of a body. -/
def nodes (body : Body) : List Node :=
  body.inner ++ body.closing.placement.kept

/-- The node of the section. -/
def block (body : Body) : Node :=
  .block body.name body.inverted body.source body.delimiters (some body.nodes)

/-- A body stands between its tags. -/
theorem splits (body : Body) :
    body.opening.cursor.rest =
      body.opening.text ++ (body.source ++ body.closing.placement.removed ++
        body.closing.next.rest) := by
  rw [body.isNext.splits, body.passage.splits, body.closingIsNext.splits]
  simp only [source, Visit.text, List.append_assoc]

/-- A body is shorter than any text that ends with what follows its opening tag. -/
theorem source_shorter (body : Body) {template : Text}
    (inside : body.opening.cursor.rest <:+ template) : body.source.length < template.length := by
  have within := inside.length_le
  have shorter : body.opening.next.rest.length < body.opening.cursor.rest.length :=
    Placement.next_shorter body.isNext
  have splits := congrArg List.length body.splits
  have opened := congrArg List.length body.isNext.splits
  simp only [List.length_append] at splits opened
  omega

end Body

/-- Going on from a visit stays in the template. -/
theorem Visit.IsNext.next_isSuffix {visit : Visit} {delimiters : Delimiters}
    (isNext : visit.IsNext delimiters) : visit.next.rest <:+ visit.cursor.rest :=
  ⟨visit.text, isNext.splits.symm⟩

/-- Going along a passage stays in the template. -/
theorem Passage.isSuffix {delimiters active : Delimiters} {cursor last : Cursor}
    {visits : List Visit} {pairs : List (Visit × Visit)} {nodes : List Node}
    (passage : Passage delimiters cursor visits pairs nodes active last) :
    last.rest <:+ cursor.rest :=
  ⟨Visit.textOf visits, passage.splits.symm⟩

/-- The bodies that a parse reports are bodies of the template. -/
theorem exists_body_of_mem_events {enclosing : Option Text} {delimiters reported : Delimiters}
    {cursor : Cursor} {source : Text} {nodes : List Node}
    (member : .bodyParsed reported source nodes ∈ (parseLevel enclosing delimiters cursor).1) :
    ∃ body : Body, body.delimiters = reported ∧ body.source = source ∧ body.nodes = nodes ∧
      body.opening.cursor.rest <:+ cursor.rest ∧
      (delimiters.AreSolid → reported.AreSolid) := by
  fun_induction parseLevel enclosing delimiters cursor with
  | case2 enclosing delimiters cursor occurrence found placement shorter emitted asked =>
    rename_i inductionHypothesis
    have isNext : Visit.IsNext ⟨cursor, occurrence⟩ delimiters := found
    obtain ⟨body, begins, sourceEq, nodesEq, inside, solid⟩ :=
      inductionHypothesis (by simpa [Outcome.after] using member)
    exact ⟨body, begins, sourceEq, nodesEq, inside.trans isNext.next_isSuffix, solid⟩
  | case3 enclosing delimiters cursor occurrence found placement shorter changed asked =>
    rename_i inductionHypothesis
    have isNext : Visit.IsNext ⟨cursor, occurrence⟩ delimiters := found
    have asks : Visit.request ⟨cursor, occurrence⟩ = .change changed := asked
    obtain ⟨body, begins, sourceEq, nodesEq, inside, solid⟩ :=
      inductionHypothesis (by simpa [Outcome.after] using member)
    exact ⟨body, begins, sourceEq, nodesEq, inside.trans isNext.next_isSuffix,
      fun _ => solid (areSolid_of_request asks)⟩
  | case4 enclosing delimiters cursor occurrence found placement shorter name inverted asked events
      fault =>
    rename_i bodyFailed inductionHypothesis
    have isNext : Visit.IsNext ⟨cursor, occurrence⟩ delimiters := found
    obtain ⟨body, begins, sourceEq, nodesEq, inside, solid⟩ :=
      inductionHypothesis (by rw [bodyFailed]; exact member)
    exact ⟨body, begins, sourceEq, nodesEq, inside.trans isNext.next_isSuffix, solid⟩
  | case5 enclosing delimiters cursor occurrence found placement shorter name inverted asked events
      level bodyParsed =>
    rename_i ended inductionHypothesis
    have isNext : Visit.IsNext ⟨cursor, occurrence⟩ delimiters := found
    obtain ⟨body, begins, sourceEq, nodesEq, inside, solid⟩ :=
      inductionHypothesis (by rw [bodyParsed]; exact member)
    exact ⟨body, begins, sourceEq, nodesEq, inside.trans isNext.next_isSuffix, solid⟩
  | case6 enclosing delimiters cursor occurrence found placement shorter name inverted asked events
      level bodyParsed next ended further within =>
    rename_i beyond
    have isNext : Visit.IsNext ⟨cursor, occurrence⟩ delimiters := found
    have levelParts : (parseLevel (some name) delimiters placement.next).parts = .ok level.parts :=
      by rw [bodyParsed, Outcome.parts_ok]
    obtain ⟨visits, pairs, inner, active, closing, passage, closingIsNext, closingAsked, same⟩ :=
      exists_closing_of_parts_eq_ok levelParts ended
    simp only [Level.parts, ended, Parts.mk.injEq, Option.some.injEq] at same
    obtain ⟨nodesSame, sourceSame, -, rfl⟩ := same
    simp only [Outcome.after, List.mem_append, List.mem_singleton, Event.bodyParsed.injEq]
      at member
    rcases member with (earlier | ⟨rfl, rfl, rfl⟩) | later
    · obtain ⟨body, begins, sourceEq, nodesEq, inside, solid⟩ :=
        within (by rw [bodyParsed]; exact earlier)
      exact ⟨body, begins, sourceEq, nodesEq, inside.trans isNext.next_isSuffix, solid⟩
    · exact ⟨⟨_, ⟨cursor, occurrence⟩, name, inverted, visits, pairs, inner, active, closing,
        isNext, asked, passage, closingIsNext, closingAsked⟩, rfl, sourceSame.symm,
        nodesSame.symm, List.suffix_refl _, id⟩
    · obtain ⟨body, begins, sourceEq, nodesEq, inside, solid⟩ := beyond later
      exact ⟨body, begins, sourceEq, nodesEq, inside.trans (closingIsNext.next_isSuffix.trans
        (passage.isSuffix.trans isNext.next_isSuffix)), solid⟩
  | _ => simp [Outcome.failure] at member

end Stencil.Template
