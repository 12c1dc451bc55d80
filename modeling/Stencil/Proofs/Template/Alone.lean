import Stencil.Proofs.Template.Alongside
import Stencil.Proofs.Template.Literal

/-!
# Bodies parsed alone

The text of a section is an excerpt of the template. Parsed alone it comes to a body with the
outline of the one that was parsed where it stands (`Body.exists_parse_source`). It comes to the
very same body exactly if three things at the edges of the body are as they are for a text that
stands alone (`Body.parse_source_eq_iff`): no tag at its start, no tag at its end and no blanks at
its end may be treated in another way. All three are so if both tags of the section have their lines
to themselves (`Body.keepsEdges_of_lines`).
-/

namespace Stencil

/-- Two texts as literals are both of them as one literal exactly if one of them is empty. -/
theorem Node.literals_append_eq_iff {first second : Text} :
    literals (first ++ second) = literals first ++ literals second ↔ first = [] ∨ second = [] := by
  cases first <;> cases second <;> simp [literals]

namespace Template

section Passage

variable {delimiters active : Delimiters} {cursor last : Cursor} {visits : List Visit}
  {pairs : List (Visit × Visit)} {nodes : List Node}

/-- A passage without visits leads nowhere. -/
theorem Passage.stays (passage : Passage delimiters cursor [] pairs nodes active last) :
    active = delimiters ∧ last = cursor := by
  cases passage with
  | stay => exact ⟨rfl, rfl⟩

/-- The first visit of a passage is of the next tag. -/
theorem Passage.first {first : Visit}
    (passage : Passage delimiters cursor (first :: visits) pairs nodes active last) :
    first.cursor = cursor ∧ first.IsNext delimiters := by
  cases passage with
  | emit isNext => exact ⟨rfl, isNext⟩
  | change isNext => exact ⟨rfl, isNext⟩
  | block isNext => exact ⟨rfl, isNext⟩

/-- A visit that leads to a place, and that is of a tag between solid delimiters. -/
def Visit.LeadsTo (place : Cursor) (visit : Visit) : Prop :=
  visit.next = place ∧ ∃ found : Delimiters, found.AreSolid ∧ visit.IsNext found

/-- The last visit leads to where a passage leads, also if it is the one before the passage. -/
theorem Passage.leadsTo_of_cons {first : Visit} {found : Delimiters}
    (onward : Passage delimiters first.next visits pairs nodes active last)
    (solid : found.AreSolid) (isNext : first.IsNext found)
    (further : ∀ visit ∈ visits.getLast?, visit.LeadsTo last) :
    ∀ visit ∈ (first :: visits).getLast?, visit.LeadsTo last := by
  intro visit isLast
  cases visits with
  | nil =>
    obtain rfl : first = visit := Option.some.inj isLast
    exact ⟨onward.stays.2.symm, found, solid, isNext⟩
  | cons second others =>
    rw [List.getLast?_cons_cons] at isLast
    exact further visit isLast

/-- The last visit of a passage leads to where the passage leads. -/
theorem Passage.leadsTo (passage : Passage delimiters cursor visits pairs nodes active last)
    (solid : delimiters.AreSolid) : ∀ visit ∈ visits.getLast?, visit.LeadsTo last := by
  induction passage with
  | stay => simp
  | emit isNext _ onward inductionHypothesis =>
    exact onward.leadsTo_of_cons solid isNext (inductionHypothesis solid)
  | change isNext asked onward inductionHypothesis =>
    exact onward.leadsTo_of_cons solid isNext (inductionHypothesis (areSolid_of_request asked))
  | block isNext _ bodyPassage closingIsNext _ onward _ beyond =>
    intro visit isLast
    apply onward.leadsTo_of_cons (bodyPassage.areSolid solid) closingIsNext (beyond solid)
    rwa [← List.cons_append, List.getLast?_append,
      List.getLast?_eq_some_getLast (List.cons_ne_nil _ _), Option.some_or,
      ← List.getLast?_eq_some_getLast] at isLast

end Passage

namespace Body

/-! ## The text of a body as an excerpt -/

/-- What follows the text of a body: what disappears with the closing tag, and all behind it. -/
def tail (body : Body) : Text :=
  body.closing.placement.removed ++ body.closing.next.rest

/-- A body is parsed from its text on. -/
theorem rest_opening (body : Body) : body.opening.next.rest = body.source ++ body.tail := by
  rw [body.passage.splits, body.closingIsNext.splits, source, tail, Visit.text]
  simp only [List.append_assoc]

/-- Behind the opening tag there is at least the closing tag. -/
theorem rest_opening_ne_nil (body : Body) : body.opening.next.rest ≠ [] := by
  rw [body.passage.splits, body.closingIsNext.splits]
  apply List.append_ne_nil_of_right_ne_nil
  exact List.append_ne_nil_of_left_ne_nil body.closingIsNext.text_ne_nil _

/-- Before the closing tag there is what is kept before it. -/
theorem rest_closing (body : Body) :
    body.closing.cursor.rest = body.closing.placement.keptSource ++ body.tail := by
  rw [body.closingIsNext.splits, Visit.text, tail, List.append_assoc]

/-- The text of a body is an excerpt from behind the opening tag. -/
theorem excerpt_start (body : Body) :
    body.opening.next.Excerpt body.tail [] (.start body.source) :=
  ⟨body.rest_opening, rfl, fun _ => rfl, fun skips => absurd rfl skips⟩

/-- The place of the closing tag is at the end of the excerpt, behind all tags. -/
theorem find?_eq_none (body : Body) (solid : body.delimiters.AreSolid) {skipped : Text}
    {place : Cursor} (cut : body.closing.cursor.Excerpt body.tail skipped place) :
    body.closing.placement.keptSource = skipped ++ place.rest ∧
      Tag.find? body.active place.rest = none := by
  have innerSolid := body.passage.areSolid solid
  have kept : body.closing.placement.keptSource = skipped ++ place.rest := by
    have rest := body.rest_closing
    rw [cut.rest, ← List.append_assoc] at rest
    exact (List.append_cancel_right rest).symm
  refine ⟨kept, ?_⟩
  have found : (Tag.find? body.active (place.rest ++ body.tail)).map
      (Tag.Occurrence.prepend skipped) = some body.closing.occurrence := by
    rw [← Tag.find?_append_of_lineEnd? innerSolid cut.isBreak, ← cut.rest]
    exact body.closingIsNext
  obtain ⟨occurrence, isThere, prepended⟩ := Option.map_eq_some_iff.mp found
  apply Tag.find?_eq_none_of_append innerSolid isThere
  have length := congrArg List.length kept
  rw [body.closing.keptSource_eq, ← prepended] at length
  simp only [Tag.Occurrence.prepend, List.length_append] at length ⊢
  split at length
  · rw [List.length_nil] at length
    omega
  · omega

/-- The parse of a body's text alone, beside the one where it stands. -/
structure Alone (body : Body) (both : List (Visit × Visit)) (inner : List Node)
    (further : Text) (place : Cursor) : Prop where
  along : Alongside body.tail [] body.opening.next (.start body.source) both further
    body.closing.cursor place
  visits : both.map Prod.fst = body.visits
  passage : ∃ pairs active, Tag.find? active place.rest = none ∧
    Passage body.delimiters (.start body.source) (both.map Prod.snd) pairs inner active place
  kept : body.closing.placement.keptSource = further ++ place.rest
  outline : Node.outlineAll inner = Node.outlineAll body.inner
  same : Alongside.lost both = [] → inner = body.inner

/-- The text of a body can be parsed alone. -/
theorem exists_alone (body : Body) (solid : body.delimiters.AreSolid) :
    ∃ both inner further place, body.Alone both inner further place := by
  obtain ⟨both, pairs, inner, further, place, along, visits, passage, outline, same⟩ :=
    body.passage.exists_alongside solid body.excerpt_start body.rest_closing
  obtain ⟨kept, absent⟩ := body.find?_eq_none solid along.excerpt
  exact ⟨both, inner, further, place, along, visits, ⟨pairs, _, absent, passage⟩, kept, outline,
    same rfl⟩

section Alone

variable {body : Body} {both : List (Visit × Visit)} {inner : List Node} {further : Text}
  {place : Cursor}

/-- What the text of a body comes to if it is parsed alone. -/
theorem Alone.parse_eq (alone : body.Alone both inner further place) :
    (parse body.delimiters body.source).2 = .ok (inner ++ Node.literals place.rest) := by
  obtain ⟨pairs, active, absent, passage⟩ := alone.passage
  exact parse_eq_ok_iff.mpr ⟨_, pairs, inner, active, place, passage, absent, rfl⟩

/-- The literal text that is lost is missing. -/
theorem Alone.length_literalText (alone : body.Alone both inner further place) :
    (Node.literalText inner).length + (Alongside.lost both).length =
      (Node.literalText body.inner).length + further.length := by
  obtain ⟨pairs, active, -, passage⟩ := alone.passage
  have lengths := alone.along.length_keptSource
  rwa [alone.visits, ← body.passage.literalText_eq, ← passage.literalText_eq, List.length_nil,
    Nat.add_zero] at lengths

/-- The body that its text comes to if it is parsed alone and nothing is lost. -/
theorem Alone.parse_eq_of_lost_eq_nil (alone : body.Alone both inner further place)
    (nothing : Alongside.lost both = []) :
    (parse body.delimiters body.source).2 =
      .ok (body.inner ++ Node.literals body.closing.placement.keptSource) := by
  have noFurther := alone.along.further_eq_nil rfl nothing
  rw [alone.parse_eq, alone.same nothing, alone.kept, noFurther, List.nil_append]

end Alone

/-- The text of a body can be parsed alone, and has the outline that the body has. -/
theorem exists_parse_source (body : Body) (solid : body.delimiters.AreSolid) :
    ∃ nodes, (parse body.delimiters body.source).2 = .ok nodes ∧
      Node.outlineAll nodes = Node.outlineAll body.nodes := by
  obtain ⟨both, inner, further, place, alone⟩ := body.exists_alone solid
  exact ⟨_, alone.parse_eq, by simp [nodes, alone.outline]⟩

/-! ## The edges of a body -/

/-- No tag disappears with its line only because the text of the body begins before it. -/
def StartIsClear (body : Body) : Prop :=
  body.opening.next.atLineStart = true ∨
    ∀ occurrence lineBreak, Tag.find? body.delimiters body.source = some occurrence →
      occurrence.content = [] →
      Placement.lineBreak? (.start body.source) occurrence = some lineBreak →
      occurrence.blank ++ lineBreak = []

/-- No tag disappears with its line only because the text of the body ends behind it. -/
def StopIsClear (body : Body) : Prop :=
  body.closing.placement.keptSource = [] →
    ∀ visit ∈ body.visits.getLast?, ¬ visit.KeepsIndentation

/-- The edges of a body are treated where it stands as they are if it is parsed alone. -/
structure KeepsEdges (body : Body) : Prop where
  start : body.StartIsClear
  stop : body.StopIsClear
  /-- The blanks before the closing tag are not kept apart from a text before them. -/
  blanks : body.closing.lineBreak?.isSome = true ∨ body.closing.occurrence.content = [] ∨
    body.closing.occurrence.blank = []

section Alone

variable {body : Body} {both : List (Visit × Visit)} {inner : List Node} {further : Text}
  {place : Cursor}

/-- Between clear edges nothing is lost. -/
theorem Alone.lost_eq_nil (alone : body.Alone both inner further place)
    (start : body.StartIsClear) (stop : body.StopIsClear) : Alongside.lost both = [] := by
  have along := alone.along
  apply along.lost_eq_nil
  · intro pair isFirst
    obtain ⟨others, rfl⟩ : ∃ others, both = pair :: others := List.head?_eq_some_iff.mp isFirst
    obtain ⟨pairs, active, -, passage⟩ := alone.passage
    obtain ⟨atSource, partIsNext⟩ := passage.first
    obtain ⟨atOpening, -, cut⟩ := along.first
    by_cases clear : pair.2.occurrence.content = [] → body.opening.next.atLineStart = true
    · right
      apply cut.beginsLine_of_atLineStart
      intro _ noContent _
      rw [atOpening]
      exact clear noContent
    · left
      rw [Classical.not_imp] at clear
      obtain ⟨noContent, notBegins⟩ := clear
      have nothing := start.resolve_left notBegins
      cases stays : pair.1.lineBreak? with
      | some lineBreak => simp [Visit.lost, stays]
      | none =>
        cases breaks : pair.2.lineBreak? with
        | none => simp [Visit.lost, stays, breaks]
        | some lineBreak =>
          rw [Visit.lost_eq stays breaks]
          unfold Visit.IsNext at partIsNext
          unfold Visit.lineBreak? at breaks
          rw [atSource] at partIsNext breaks
          exact nothing _ _ partIsNext noContent breaks
  · intro pair isLast atEnd
    obtain ⟨rfl, noRest⟩ := along.left_eq_nil pair isLast atEnd
    apply stop
    · rw [alone.kept, noRest]
      rfl
    · rw [← alone.visits, List.getLast?_map, isLast]
      rfl

/-- Where nothing is lost, the start of the body is clear. -/
theorem Alone.startIsClear (alone : body.Alone both inner further place)
    (nothing : Alongside.lost both = []) : body.StartIsClear := by
  rw [StartIsClear, Classical.or_iff_not_imp_left]
  intro notBegins occurrence lineBreak found noContent breaks
  obtain ⟨pairs, active, absent, passage⟩ := alone.passage
  cases both with
  | nil =>
    obtain ⟨rfl, rfl⟩ := passage.stays
    rw [Cursor.start, found] at absent
    simp at absent
  | cons first others =>
    obtain ⟨atSource, partIsNext⟩ := passage.first
    obtain ⟨atOpening, -, cut⟩ := alone.along.first
    unfold Visit.IsNext at partIsNext
    rw [atSource] at partIsNext
    obtain rfl : first.2.occurrence = occurrence :=
      Option.some.inj (partIsNext.symm.trans found)
    have stays : first.1.lineBreak? = none := by
      refine Option.eq_none_iff_forall_ne_some.mpr fun wholeBreak isBreak => notBegins ?_
      have begins := (Visit.lineBreak?_eq_some_iff.mp isBreak).2.1
      rwa [Placement.beginsLine_eq, cut.content, noContent, List.nil_append, if_pos rfl,
        atOpening] at begins
    have partBreaks : first.2.lineBreak? = some lineBreak := by
      rw [Visit.lineBreak?, atSource]
      exact breaks
    rw [← Visit.lost_eq stays partBreaks]
    exact (List.append_eq_nil_iff.mp nothing).1

/-- Where nothing is lost, the end of the body is clear. -/
theorem Alone.stopIsClear (alone : body.Alone both inner further place)
    (nothing : Alongside.lost both = []) : body.StopIsClear := by
  intro nothingKept visit isLast keeps
  rw [← alone.visits, List.getLast?_map] at isLast
  obtain ⟨pair, pairIsLast, rfl⟩ := Option.map_eq_some_iff.mp isLast
  have kept := alone.kept
  rw [nothingKept] at kept
  have atEnd := (List.append_eq_nil_iff.mp kept.symm).2
  exact Alongside.lost_ne_nil_of_mem (List.mem_of_getLast? pairIsLast)
    (alone.along.lost_ne_nil_of_last atEnd pair pairIsLast keeps) nothing

end Alone

/-- What is kept before the closing tag is one literal exactly if no blanks are kept apart. -/
theorem literals_keptSource_eq_iff (body : Body) :
    Node.literals body.closing.placement.keptSource = body.closing.placement.kept ↔
      body.closing.lineBreak?.isSome = true ∨ body.closing.occurrence.content = [] ∨
        body.closing.occurrence.blank = [] := by
  rw [body.closing.kept_eq, body.closing.keptSource_eq]
  cases body.closing.lineBreak?.isSome with
  | true => simp
  | false => simpa using Node.literals_append_eq_iff

/-- The text of a body comes to the body if it is parsed alone, exactly if the body's edges are
treated alike. -/
theorem parse_source_eq_iff (body : Body) (solid : body.delimiters.AreSolid) :
    (parse body.delimiters body.source).2 = .ok body.nodes ↔ body.KeepsEdges := by
  obtain ⟨both, inner, further, place, alone⟩ := body.exists_alone solid
  constructor
  · intro parsed
    have same : inner ++ Node.literals place.rest =
        body.inner ++ body.closing.placement.kept :=
      Except.ok.inj (alone.parse_eq.symm.trans parsed)
    have nothing : Alongside.lost both = [] := by
      have lengths := alone.length_literalText
      have kept := congrArg List.length alone.kept
      have texts := congrArg (fun nodes => (Node.literalText nodes).length) same
      simp only [Node.literalText_append, Node.literalText_literals, Visit.literalText_kept,
        List.length_append] at texts kept
      exact List.eq_nil_of_length_eq_zero (by omega)
    refine ⟨alone.startIsClear nothing, alone.stopIsClear nothing,
      body.literals_keptSource_eq_iff.mp ?_⟩
    rw [alone.parse_eq_of_lost_eq_nil nothing] at parsed
    exact List.append_cancel_left (Except.ok.inj parsed)
  · intro keeps
    rw [alone.parse_eq_of_lost_eq_nil (alone.lost_eq_nil keeps.start keeps.stop),
      body.literals_keptSource_eq_iff.mpr keeps.blanks, nodes]

/-! ## Sections that have lines to themselves -/

/-- Behind an opening tag that has its line to itself another line begins. -/
theorem atLineStart_of_isSome (body : Body) (solid : body.delimiters.AreSolid)
    (breaks : body.opening.lineBreak?.isSome) : body.opening.next.atLineStart = true := by
  rw [body.isNext.atLineStart_next_iff solid]
  intro nothing
  obtain ⟨lineBreak, isBreak⟩ := Option.isSome_iff_exists.mp breaks
  obtain rfl : lineBreak = [] := by rwa [isBreak, Option.getD_some] at nothing
  have ends := (Visit.lineBreak?_eq_some_iff.mp isBreak).2.2
  -- Only the end of the template ends a line without a line break.
  have atEnd : body.opening.occurrence.rest = [] := by
    rcases lineEnd?_cases ends with ⟨-, atEnd⟩ | feed | carriage
    · exact atEnd
    · simp at feed
    · simp at carriage
  have rest := body.opening.rest_eq
  rw [atEnd] at rest
  exact body.rest_opening_ne_nil (List.append_eq_nil_iff.mp rest.symm).2

/-- Before a closing tag that has its line to itself the end of the body is clear. -/
theorem stopIsClear_of_isSome (body : Body) (solid : body.delimiters.AreSolid)
    (breaks : body.closing.lineBreak?.isSome) : body.StopIsClear := by
  intro nothing visit isLast keeps
  obtain ⟨atClosing, found, foundSolid, isNext⟩ := body.passage.leadsTo solid visit isLast
  obtain ⟨lineBreak, isBreak⟩ := Option.isSome_iff_exists.mp breaks
  have begins := (Visit.lineBreak?_eq_some_iff.mp isBreak).2.1
  have noContent : body.closing.occurrence.content = [] := by
    rw [body.closing.keptSource_eq] at nothing
    exact (List.append_eq_nil_iff.mp nothing).1
  rw [Placement.beginsLine_eq, if_pos noContent, ← atClosing,
    isNext.atLineStart_next_iff foundSolid, keeps.stays] at begins
  exact begins rfl

/-- The edges of a body whose tags have their lines to themselves are treated alike. -/
theorem keepsEdges_of_lines (body : Body) (solid : body.delimiters.AreSolid)
    (opening : body.opening.lineBreak?.isSome) (closing : body.closing.lineBreak?.isSome) :
    body.KeepsEdges where
  start := .inl (body.atLineStart_of_isSome solid opening)
  stop := body.stopIsClear_of_isSome solid closing
  blanks := .inl closing

end Body

end Template

end Stencil
