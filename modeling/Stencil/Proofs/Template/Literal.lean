import Stencil.Proofs.Template.Machine

/-!
# What remains of the text of a template

The literal text of a parsed template is the text that the template was written in without what
disappears: the tags, and the lines that some of them have to themselves. What disappears with a tag
is a span of the template, which its sighting tells (`Sighting.span`), and spans are taken out by
their places alone (`Text.without`), so that nothing can be moved or taken twice.

A passage keeps what its visits keep, in their order (`Passage.literalText_eq`). A `Walk` is what is
left of a passage when its sections are forgotten: visits one after the other, each at the place
that the one before it leads to. Along a walk the spans lie one after the other, and what is kept
lies between them (`Walk.without_eq`).
-/

namespace Stencil

/-! ## Texts without spans -/

/-- Whether a place lies in a span, which is given by where it begins and where it ends. -/
def Text.covers (place : Nat) (span : Nat × Nat) : Bool :=
  span.1 ≤ place && place < span.2

/-- A text that begins at some place, without what lies in spans. -/
def Text.withoutFrom (place : Nat) (spans : List (Nat × Nat)) : Text → Text
  | [] => []
  | point :: rest =>
    if spans.any (covers place) then withoutFrom (place + 1) spans rest
    else point :: withoutFrom (place + 1) spans rest

/-- A text without what lies in spans. -/
def Text.without (spans : List (Nat × Nat)) (text : Text) : Text :=
  text.withoutFrom 0 spans

namespace Text

/-- Spans are taken out of a text piece by piece. -/
theorem withoutFrom_append (place : Nat) (spans : List (Nat × Nat)) (first second : Text) :
    withoutFrom place spans (first ++ second) =
      withoutFrom place spans first ++ withoutFrom (place + first.length) spans second := by
  induction first generalizing place with
  | nil => rfl
  | cons point first inductionHypothesis =>
    simp only [List.cons_append, withoutFrom, List.length_cons, inductionHypothesis (place + 1),
      Nat.add_right_comm place 1, Nat.add_assoc place first.length 1]
    split <;> rfl

/-- Where no span is, nothing is taken out. -/
theorem withoutFrom_eq_self {place : Nat} {spans : List (Nat × Nat)} {text : Text}
    (outside : ∀ span ∈ spans, span.2 ≤ place ∨ place + text.length ≤ span.1) :
    withoutFrom place spans text = text := by
  induction text generalizing place with
  | nil => rfl
  | cons point rest inductionHypothesis =>
    have notCovered : spans.any (covers place) = false := by
      rw [List.any_eq_false]
      intro span member
      have apart := outside span member
      rw [List.length_cons] at apart
      simp only [covers, Bool.and_eq_true, decide_eq_true_eq]
      omega
    have further : ∀ span ∈ spans, span.2 ≤ place + 1 ∨ place + 1 + rest.length ≤ span.1 := by
      intro span member
      have apart := outside span member
      rw [List.length_cons] at apart
      omega
    rw [withoutFrom, notCovered, inductionHypothesis further]
    rfl

/-- What lies in a span is taken out. -/
theorem withoutFrom_eq_nil {place : Nat} {spans : List (Nat × Nat)} {text : Text}
    {start stop : Nat} (member : (start, stop) ∈ spans) (starts : start ≤ place)
    (stops : place + text.length ≤ stop) : withoutFrom place spans text = [] := by
  induction text generalizing place with
  | nil => rfl
  | cons point rest inductionHypothesis =>
    rw [List.length_cons] at stops
    have covered : spans.any (covers place) = true := by
      rw [List.any_eq_true]
      refine ⟨_, member, ?_⟩
      simp only [covers, Bool.and_eq_true, decide_eq_true_eq]
      omega
    rw [withoutFrom, covered, if_pos rfl]
    apply inductionHypothesis <;> omega

/-- A span that ends before a text takes nothing out of it. -/
theorem withoutFrom_cons_of_le {place start stop : Nat} {spans : List (Nat × Nat)} {text : Text}
    (before : stop ≤ place) :
    withoutFrom place ((start, stop) :: spans) text = withoutFrom place spans text := by
  induction text generalizing place with
  | nil => rfl
  | cons point rest inductionHypothesis =>
    have notCovered : covers place (start, stop) = false := by
      simp only [covers, Bool.and_eq_false_iff, decide_eq_false_iff_not]
      omega
    have further := inductionHypothesis (Nat.le_succ_of_le before)
    rw [withoutFrom, withoutFrom, List.any_cons, notCovered, Bool.false_or, further]

/-- A span at the end of a text takes this end out of it. -/
theorem withoutFrom_cons_end {place : Nat} {spans : List (Nat × Nat)} (kept removed : Text)
    (beyond : ∀ span ∈ spans, place + (kept ++ removed).length ≤ span.1) :
    withoutFrom place ((place + kept.length, place + (kept ++ removed).length) :: spans)
      (kept ++ removed) = kept := by
  have keptStays : withoutFrom place
      ((place + kept.length, place + (kept ++ removed).length) :: spans) kept = kept := by
    apply withoutFrom_eq_self
    intro span member
    rcases List.mem_cons.mp member with rfl | later
    · exact .inr (Nat.le_refl _)
    · have apart := beyond span later
      rw [List.length_append] at apart
      omega
  have removedGoes : withoutFrom (place + kept.length)
      ((place + kept.length, place + (kept ++ removed).length) :: spans) removed = [] := by
    apply withoutFrom_eq_nil List.mem_cons_self (Nat.le_refl _)
    rw [List.length_append]
    omega
  rw [withoutFrom_append, keptStays, removedGoes, List.append_nil]

end Text

namespace Template

/-! ## Walks -/

/-- What disappears with a tag, by its places. -/
def Sighting.span (sighting : Sighting) : Nat × Nat :=
  (sighting.start, sighting.stop)

/-- Visits one after the other, from a place on up to which some text was passed. -/
inductive Walk (template : Text) : Text → List Visit → Prop where
  | nil {passed} : Walk template passed []
  | cons {passed delimiters visits} {visit : Visit} (solid : delimiters.AreSolid)
      (isNext : visit.IsNext delimiters) (stands : visit.cursor.Stands template passed)
      (further : Walk template (passed ++ visit.text) visits) :
      Walk template passed (visit :: visits)

section Walk

variable {template passed : Text} {visits : List Visit}

/-- Walks can be joined. -/
theorem Walk.append {later : List Visit} (walk : Walk template passed visits)
    (onward : Walk template (passed ++ Visit.textOf visits) later) :
    Walk template passed (visits ++ later) := by
  induction walk with
  | nil => simpa using onward
  | cons solid isNext stands _ inductionHypothesis =>
    exact .cons solid isNext stands (inductionHypothesis (by simpa using onward))

/-- A passage is a walk. -/
theorem Passage.walk {delimiters active : Delimiters} {cursor last : Cursor}
    {pairs : List (Visit × Visit)} {nodes : List Node}
    (passage : Passage delimiters cursor visits pairs nodes active last)
    (solid : delimiters.AreSolid) (stands : cursor.Stands template passed) :
    Walk template passed visits := by
  induction passage generalizing passed with
  | stay => exact .nil
  | emit isNext _ _ inductionHypothesis =>
    exact .cons solid isNext stands (inductionHypothesis solid (isNext.stands solid stands))
  | change isNext asked _ inductionHypothesis =>
    exact .cons solid isNext stands
      (inductionHypothesis (areSolid_of_request asked) (isNext.stands solid stands))
  | block isNext _ bodyPassage closingIsNext _ _ inside beyond =>
    have atBody := isNext.stands solid stands
    have atClosing := bodyPassage.stands solid atBody
    have innerSolid := bodyPassage.areSolid solid
    have closed := closingIsNext.stands innerSolid atClosing
    exact .cons solid isNext stands
      ((inside solid atBody).append
        (.cons innerSolid closingIsNext atClosing (beyond solid closed)))

/-- The spans of a walk begin behind the text that was passed before. -/
theorem Walk.le_start (walk : Walk template passed visits) :
    ∀ visit ∈ visits, passed.length ≤ (visit.sightingIn template).start := by
  induction walk with
  | nil => simp
  | @cons passed delimiters visits visit solid isNext stands _ inductionHypothesis =>
    intro other member
    rcases List.mem_cons.mp member with rfl | later
    · rw [Visit.sightingIn_eq stands, isNext.start_eq solid stands]
      omega
    · have further := inductionHypothesis other later
      rw [List.length_append] at further
      omega

/-- The spans of a walk end in the text of its visits. -/
theorem Walk.stop_le (walk : Walk template passed visits) :
    ∀ visit ∈ visits,
      (visit.sightingIn template).stop ≤ passed.length + (Visit.textOf visits).length := by
  induction walk with
  | nil => simp
  | @cons passed delimiters visits visit solid isNext stands _ inductionHypothesis =>
    intro other member
    rw [Visit.textOf_cons, List.length_append]
    rcases List.mem_cons.mp member with rfl | later
    · rw [Visit.sightingIn_eq stands, isNext.stop_eq solid stands]
      omega
    · have further := inductionHypothesis other later
      rw [List.length_append] at further
      omega

/-- What is kept along a walk lies outside of its spans. -/
theorem Walk.without_eq (walk : Walk template passed visits) :
    (Visit.textOf visits).withoutFrom passed.length
        (visits.map fun visit => (visit.sightingIn template).span) =
      visits.flatMap fun visit => visit.placement.keptSource := by
  induction walk with
  | nil => rfl
  | @cons passed delimiters visits visit solid isNext stands further inductionHypothesis =>
    have start : (visit.sightingIn template).start =
        passed.length + visit.placement.keptSource.length := by
      rw [Visit.sightingIn_eq stands, isNext.start_eq solid stands]
    have stop : (visit.sightingIn template).stop = passed.length + visit.text.length := by
      rw [Visit.sightingIn_eq stands, isNext.stop_eq solid stands]
    have spans : ((visit :: visits).map fun visit => (visit.sightingIn template).span) =
        (passed.length + visit.placement.keptSource.length, passed.length + visit.text.length) ::
          visits.map fun visit => (visit.sightingIn template).span := by
      rw [List.map_cons, Sighting.span, start, stop]
    have beyond : ∀ span ∈ visits.map fun visit => (visit.sightingIn template).span,
        passed.length + visit.text.length ≤ span.1 := by
      intro span member
      obtain ⟨other, isThere, rfl⟩ := List.mem_map.mp member
      have begins := further.le_start other isThere
      rwa [List.length_append] at begins
    rw [spans, Visit.textOf_cons, Text.withoutFrom_append, List.flatMap_cons]
    congr 1
    · exact Text.withoutFrom_cons_end visit.placement.keptSource visit.placement.removed beyond
    · rw [Text.withoutFrom_cons_of_le (Nat.le_refl _), ← List.length_append]
      exact inductionHypothesis

/-- The visits of a walk are tags of the template. -/
theorem Walk.splits (walk : Walk template passed visits) :
    ∀ visit ∈ visits, (visit.sightingIn template).before ++
      ((visit.sightingIn template).source ++ (visit.sightingIn template).rest) = template := by
  induction walk with
  | nil => simp
  | cons solid isNext stands _ inductionHypothesis =>
    intro other member
    rcases List.mem_cons.mp member with rfl | later
    · rw [Visit.sightingIn_eq stands, stands.splits, (Tag.find?_splits isNext).1]
      simp [Visit.sighting]
    · exact inductionHypothesis other later

end Walk

end Template

/-! ## Literal text and inclusions -/

namespace Template

section Passage

variable {delimiters active : Delimiters} {cursor last : Cursor} {visits : List Visit}
  {pairs : List (Visit × Visit)} {nodes : List Node}

/-- A passage keeps what its visits keep. -/
theorem Passage.literalText_eq
    (passage : Passage delimiters cursor visits pairs nodes active last) :
    Node.literalText nodes = visits.flatMap fun visit => visit.placement.keptSource := by
  induction passage with
  | stay => rfl
  | emit _ asked _ inductionHypothesis =>
    simp [inductionHypothesis, literalText_of_request asked]
  | change _ _ _ inductionHypothesis => simp [inductionHypothesis]
  | block _ _ _ _ _ _ inside beyond => simp [inside, beyond]

/-- A passage includes what its visits include. -/
theorem Passage.inclusions_eq
    (passage : Passage delimiters cursor visits pairs nodes active last) :
    Node.inclusions nodes = visits.flatMap fun visit => Node.inclusions visit.request.nodes := by
  induction passage with
  | stay => rfl
  | emit _ asked _ inductionHypothesis =>
    simp [inductionHypothesis, asked]
  | change _ asked _ inductionHypothesis =>
    simp [inductionHypothesis, asked]
  | block _ asked _ _ closingAsked _ inside beyond =>
    simp [inside, beyond, asked, closingAsked]

end Passage

/-- What a tag includes, and with which indentation: its own, if it has its line to itself. -/
def Sighting.inclusions (sighting : Sighting) : List (Text × Text) :=
  if sighting.tag.form.sign = some (.char '>') then
    [(sighting.tag.body, if sighting.isStandalone then sighting.indentation else [])]
  else []

/-- Inclusions are indented as far as their tags are. -/
theorem Visit.IsNext.inclusions_eq {visit : Visit} {delimiters : Delimiters}
    {template passed : Text} (isNext : visit.IsNext delimiters) (solid : delimiters.AreSolid)
    (stands : visit.cursor.Stands template passed) :
    Node.inclusions visit.request.nodes = (visit.sightingIn template).inclusions := by
  rw [Visit.sightingIn_eq stands, Visit.request, Tag.inclusions_request,
    isNext.indent_eq solid stands, Sighting.inclusions]
  by_cases sign : visit.occurrence.tag.form.sign = some (.char '>')
  · have sameSign : (visit.sighting passed).tag.form.sign = some (.char '>') := sign
    have organises : (visit.sighting passed).tag.isInterpolation = false := by
      simp [Tag.isInterpolation, sameSign]
    rw [if_pos sign, if_pos sameSign, Sighting.vanishes, organises]
    rfl
  · have otherSign : ¬ (visit.sighting passed).tag.form.sign = some (.char '>') := sign
    rw [if_neg sign, if_neg otherSign]

/-- Along a walk inclusions are indented as far as their tags are. -/
theorem Walk.inclusions_eq {template passed : Text} {visits : List Visit}
    (walk : Walk template passed visits) :
    visits.flatMap (fun visit => Node.inclusions visit.request.nodes) =
      visits.flatMap fun visit => (visit.sightingIn template).inclusions := by
  induction walk with
  | nil => rfl
  | cons solid isNext stands _ inductionHypothesis =>
    rw [List.flatMap_cons, List.flatMap_cons, inductionHypothesis,
      isNext.inclusions_eq solid stands]

/-- Literal text is the text of a template without what disappears with its tags. -/
theorem literalText_eq_without (capacity : Option Nat) {delimiters : Delimiters}
    (solid : delimiters.AreSolid) {template : Text} {nodes : List Node}
    (parsed : ((Cache.empty capacity).parse delimiters template).result = .ok nodes) :
    ∃ final, (Machine.start delimiters template).run = .ok final ∧
      (∀ sighting ∈ final.seen,
        sighting.before ++ (sighting.source ++ sighting.rest) = template) ∧
      Node.literalText nodes = template.without (final.seen.map Sighting.span) ∧
      Node.inclusions nodes = final.seen.flatMap Sighting.inclusions := by
  rw [Cache.parse_empty] at parsed
  obtain ⟨visits, pairs, inner, active, last, passage, absent, rfl⟩ :=
    parse_eq_ok_iff.mp parsed
  obtain ⟨final, finished, onward⟩ := exists_final_of_passage solid passage absent
  have walk := passage.walk solid (.start template)
  have seen : final.seen = visits.map (Visit.sightingIn template) := onward.seen
  refine ⟨final, finished, ?_, ?_, ?_⟩
  · rw [seen]
    intro sighting member
    obtain ⟨visit, isThere, rfl⟩ := List.mem_map.mp member
    exact walk.splits visit isThere
  · have spans : final.seen.map Sighting.span =
        visits.map fun visit => (visit.sightingIn template).span := by
      rw [seen, List.map_map]
      rfl
    have tailStays : last.rest.withoutFrom (Visit.textOf visits).length
        (visits.map fun visit => (visit.sightingIn template).span) = last.rest := by
      apply Text.withoutFrom_eq_self
      intro span member
      obtain ⟨visit, isThere, rfl⟩ := List.mem_map.mp member
      have stops := walk.stop_le visit isThere
      rw [List.length_nil, Nat.zero_add] at stops
      exact .inl stops
    have kept := walk.without_eq
    rw [List.length_nil] at kept
    calc Node.literalText (inner ++ Node.literals last.rest)
        = (Visit.textOf visits).withoutFrom 0 (final.seen.map Sighting.span) ++ last.rest := by
          rw [Node.literalText_append, Node.literalText_literals, passage.literalText_eq, spans,
            kept]
      _ = (Visit.textOf visits ++ last.rest).without (final.seen.map Sighting.span) := by
          rw [Text.without, Text.withoutFrom_append, Nat.zero_add, spans, tailStays]
      _ = template.without (final.seen.map Sighting.span) :=
          congrArg (Text.without _) passage.splits.symm
  · rw [seen, List.flatMap_map, Node.inclusions_append, Node.inclusions_literals, List.append_nil,
      passage.inclusions_eq, walk.inclusions_eq]

/-- A section on lines of its own that has an inclusion on a line of its own. -/
def sampleTemplate : Text :=
  .of "\x7b\x7b#s\x7d\x7d\na\n \x7b\x7b>p\x7d\x7d\n\x7b\x7b/s\x7d\x7d\nb"

/-- What the sample comes to. -/
def sampleNodes : List Node :=
  [.block (.of "s") false (.of "a\n \x7b\x7b>p\x7d\x7d\n") .standard
      (some [.literal (.of "a\n"), .inclusion (.of "p") (.of " ")]),
    .literal (.of "b")]

/-- The sample can be parsed. -/
theorem parse_sampleTemplate :
    ((Cache.empty none).parse .standard sampleTemplate).result = .ok sampleNodes := by
  have parsed : parse .standard sampleTemplate =
      ([.bodyParsed .standard (.of "a\n \x7b\x7b>p\x7d\x7d\n")
        [.literal (.of "a\n"), .inclusion (.of "p") (.of " ")]], .ok sampleNodes) := by
    cbv
  rw [Cache.parse_empty, parsed]

/-- The lines of the three tags disappear from the sample. -/
theorem literalText_eq_without_sample :
    Delimiters.standard.AreSolid ∧
      ((Cache.empty none).parse .standard sampleTemplate).result = .ok sampleNodes ∧
      ∃ final, (Machine.start .standard sampleTemplate).run = .ok final ∧
        (∀ sighting ∈ final.seen,
          sighting.before ++ (sighting.source ++ sighting.rest) = sampleTemplate) ∧
        Node.literalText sampleNodes = sampleTemplate.without (final.seen.map Sighting.span) ∧
        Node.inclusions sampleNodes = final.seen.flatMap Sighting.inclusions :=
  ⟨by decide, parse_sampleTemplate,
    literalText_eq_without none (by decide) parse_sampleTemplate⟩

end Template

end Stencil
