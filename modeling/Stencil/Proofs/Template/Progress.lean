import Stencil.Proofs.Template.Body

/-!
# How far a parse comes

A parse that fails comes to some place of the template and stops there (`Progress`, `Stops`): at a
tag that something is wrong with, or at the end of the template inside of a section. On the way it
has closed sections. The bodies that a failed parse reports are the bodies of these sections
(`closedBefore_of_mem_events`).
-/

namespace Stencil.Template

/-- From one place of a template to a later one, along passages and into sections that stay open.
The tags of the sections that were closed on the way are kept as pairs. -/
inductive Progress : Option Text → Delimiters → Cursor → List (Visit × Visit) →
    Option Text → Delimiters → Cursor → Prop where
  | along {enclosing delimiters cursor visits pairs nodes active last}
      (passage : Passage delimiters cursor visits pairs nodes active last) :
      Progress enclosing delimiters cursor pairs enclosing active last
  | into {enclosing delimiters cursor visits pairs nodes active name inverted more within inner
        last} {opening : Visit}
      (passage : Passage delimiters cursor visits pairs nodes active opening.cursor)
      (isNext : opening.IsNext active) (asked : opening.request = .opens name inverted)
      (further : Progress (some name) active opening.next more within inner last) :
      Progress enclosing delimiters cursor (pairs ++ more) within inner last

/-- What stops a parse at a place of a template. -/
inductive Stops : Option Text → Delimiters → Cursor → ParseError.Cause → Prop where
  | tag {enclosing active cause} {visit : Visit} (isNext : visit.IsNext active)
      (faulty : visit.fault? enclosing = some cause) :
      Stops enclosing active visit.cursor cause
  | ended {name active last} (absent : Tag.find? active last.rest = none) :
      Stops (some name) active last (.unclosed name)

/-- A section of a template that was closed before the parse of the template stopped. -/
def Body.IsClosedBefore (delimiters : Delimiters) (template : Text) (cause : ParseError.Cause)
    (body : Body) : Prop :=
  ∃ pairs within active last,
    Progress none delimiters (.start template) pairs within active last ∧
      Stops within active last cause ∧ (body.opening, body.closing) ∈ pairs

/-! ## Reports along a passage -/

section Events

variable {enclosing : Option Text} {delimiters active : Delimiters} {cursor last : Cursor}
  {visits : List Visit} {pairs : List (Visit × Visit)} {nodes : List Node} {reported : Delimiters}
  {source : Text} {body : List Node}

/-- Without a tag nothing is reported. -/
theorem events_of_absent (absent : Tag.find? delimiters cursor.rest = none) :
    (parseLevel enclosing delimiters cursor).1 = [] := by
  rw [parseLevel.eq_def]
  split
  · rfl
  · rename_i found
    simp [absent] at found

/-- What is reported from the next tag on. -/
theorem events_at_tag {visit : Visit} (isNext : visit.IsNext delimiters) :
    (parseLevel enclosing delimiters visit.cursor).1 =
      match visit.request with
      | .emit _ => (parseLevel enclosing delimiters visit.next).1
      | .change changed =>
        .delimitersChanged changed :: (parseLevel enclosing changed visit.next).1
      | .opens name _ =>
        (parseLevel (some name) delimiters visit.next).1 ++
          match (parseLevel (some name) delimiters visit.next).parts with
          | .ok ⟨nodes, source, _, some next⟩ =>
            .bodyParsed delimiters source nodes :: (parseLevel enclosing delimiters next).1
          | _ => []
      | .closes _ => []
      | .refused _ => [] := by
  obtain ⟨cursor, occurrence⟩ := visit
  rw [parseLevel.eq_def]
  split
  · rename_i absent
    simp [Visit.IsNext, absent] at isNext
  · rename_i other found
    obtain rfl : other = occurrence := Option.some.inj (found.symm.trans isNext)
    simp only [Visit.request, Visit.placement, Visit.next]
    cases other.tag.request (Placement.of cursor other).indent with
    | emit nodes => rfl
    | change changed => rfl
    | opens name inverted =>
      dsimp only
      split
      · rename_i failed
        simp [failed]
      · rename_i level parsed
        simp only [parsed, Outcome.parts_ok, Level.parts]
        split
        · rename_i ended
          simp [ended, Outcome.failure]
        · rename_i ended
          simp [ended, Outcome.after]
    | closes name =>
      cases enclosing with
      | none => rfl
      | some expected =>
        dsimp only
        split
        · rfl
        · rfl
    | refused cause => rfl

/-- A body that is reported along a passage is one of the passage, or it is reported later. -/
theorem Passage.mem_events (passage : Passage delimiters cursor visits pairs nodes active last)
    (member : .bodyParsed reported source body ∈ (parseLevel enclosing delimiters cursor).1) :
    (∃ closed : Body, closed.delimiters = reported ∧ closed.source = source ∧
        (closed.opening, closed.closing) ∈ pairs) ∨
      .bodyParsed reported source body ∈ (parseLevel enclosing active last).1 := by
  induction passage generalizing enclosing with
  | stay => exact .inr member
  | emit isNext asked _ inductionHypothesis =>
    rw [events_at_tag isNext, asked] at member
    exact inductionHypothesis member
  | change isNext asked _ inductionHypothesis =>
    rw [events_at_tag isNext, asked] at member
    exact inductionHypothesis ((List.mem_cons.mp member).resolve_left nofun)
  | @block delimiters opening name inverted insideVisits insidePairs inner innerDelimiters closing
      _ laterPairs _ _ _ isNext asked bodyPassage closingIsNext closingAsked _ inside beyond =>
    have parsed : (parseLevel (some name) delimiters opening.next).parts = _ :=
      (bodyPassage.parts_eq (some name)).trans
        (congrArg (Except.map _) (Ending.closing closingIsNext closingAsked).parts_eq)
    rw [events_at_tag isNext, asked] at member
    simp only [parsed, Except.map, Parts.prepend, List.mem_append, List.mem_cons,
      Event.bodyParsed.injEq] at member
    rcases member with within | ⟨rfl, rfl, -⟩ | later
    · rcases inside within with ⟨closed, begins, sourceEq, isPair⟩ | atClosing
      · exact .inl ⟨closed, begins, sourceEq, List.mem_append_left _ isPair⟩
      · rw [events_at_tag closingIsNext, closingAsked] at atClosing
        cases atClosing
    · refine .inl ⟨⟨_, opening, name, inverted, insideVisits, insidePairs, inner, innerDelimiters,
        closing, isNext, asked, bodyPassage, closingIsNext, closingAsked⟩, rfl, rfl, ?_⟩
      simp
    · rcases beyond later with ⟨closed, begins, sourceEq, isPair⟩ | further
      · exact .inl ⟨closed, begins, sourceEq, by simp [isPair]⟩
      · exact .inr further

/-- Where something is wrong with a tag, nothing is reported. -/
theorem events_of_fault {visit : Visit} {cause : ParseError.Cause}
    (isNext : visit.IsNext delimiters) (faulty : visit.fault? enclosing = some cause) :
    (parseLevel enclosing delimiters visit.cursor).1 = [] := by
  rw [events_at_tag isNext]
  unfold Visit.fault? at faulty
  split at faulty
  · rename_i asked
    rw [asked]
  · rename_i asked
    rw [asked]
  · rename_i asked
    rw [asked]
  · cases faulty

/-- What stops a parse stops it somewhere, and until then it has reported the bodies of the sections
that were closed on the way. -/
theorem Halt.exists_progress {error : ParseError} (halt : Halt enclosing delimiters cursor error) :
    ∃ pairs within active last, Progress enclosing delimiters cursor pairs within active last ∧
      Stops within active last error.cause ∧
      ∀ reported source body,
        .bodyParsed reported source body ∈ (parseLevel enclosing delimiters cursor).1 →
          ∃ closed : Body, closed.delimiters = reported ∧ closed.source = source ∧
            (closed.opening, closed.closing) ∈ pairs := by
  induction halt with
  | tag passage isNext faulty =>
    refine ⟨_, _, _, _, .along passage, .tag isNext faulty, fun reported source body member => ?_⟩
    refine (passage.mem_events member).resolve_right fun atTag => ?_
    rw [events_of_fault isNext faulty] at atTag
    cases atTag
  | @ended enclosing _ _ _ _ _ active name _ _ _ _ inner last opening passage isNext asked
      bodyPassage absent =>
    refine ⟨_, _, _, _, .into passage isNext asked (.along bodyPassage), .ended absent,
      fun reported source body member => ?_⟩
    have isOpen : (parseLevel (some name) active opening.next).parts = _ :=
      (bodyPassage.parts_eq (some name)).trans
        (congrArg (Except.map _) (parts_of_absent absent))
    rcases passage.mem_events member with ⟨closed, begins, sourceEq, isPair⟩ | atTag
    · exact ⟨closed, begins, sourceEq, List.mem_append_left _ isPair⟩
    · rw [events_at_tag isNext, asked] at atTag
      simp only [isOpen, Except.map, Parts.prepend, List.append_nil] at atTag
      rcases bodyPassage.mem_events atTag with ⟨closed, begins, sourceEq, isPair⟩ | atEnd
      · exact ⟨closed, begins, sourceEq, List.mem_append_right _ isPair⟩
      · rw [events_of_absent absent] at atEnd
        cases atEnd
  | inside passage isNext asked halt inductionHypothesis =>
    obtain ⟨pairs, within, inner, last, progress, stops, closes⟩ := inductionHypothesis
    refine ⟨_, within, inner, last, .into passage isNext asked progress, stops,
      fun reported source body member => ?_⟩
    rcases passage.mem_events member with ⟨closed, begins, sourceEq, isPair⟩ | atTag
    · exact ⟨closed, begins, sourceEq, List.mem_append_left _ isPair⟩
    · rw [events_at_tag isNext, asked] at atTag
      simp only [halt.parts_eq, List.append_nil] at atTag
      obtain ⟨closed, begins, sourceEq, isPair⟩ := closes reported source body atTag
      exact ⟨closed, begins, sourceEq, List.mem_append_right _ isPair⟩

end Events

/-- The bodies that a failed parse reports are those of sections that were closed before it
stopped. -/
theorem closedBefore_of_mem_events {delimiters reported : Delimiters} {template source : Text}
    {error : ParseError} {nodes : List Node}
    (failed : (parse delimiters template).2 = .error error)
    (member : .bodyParsed reported source nodes ∈ (parse delimiters template).1) :
    ∃ body : Body, body.IsClosedBefore delimiters template error.cause ∧
      body.delimiters = reported ∧ body.source = source := by
  obtain ⟨pairs, within, active, last, progress, stops, closes⟩ :=
    (parse_eq_error_iff.mp failed).exists_progress
  obtain ⟨body, begins, sourceEq, isPair⟩ := closes reported source nodes member
  exact ⟨body, ⟨pairs, within, active, last, progress, stops, isPair⟩, begins, sourceEq⟩

end Stencil.Template
