import Stencil.Proofs.Template.Excerpt

/-!
# Going alongside an excerpt

The tags of an excerpt are visited one after the other in the template and in the excerpt alike
(`Passage.exists_alongside`). What disappears only in the excerpt disappears with its first tag or
with its last one (`Alongside.lost_eq_nil`): with the first one if a line begins at the start of the
excerpt only, and with the last one if it is the end of the excerpt that ends the line. Where this
does not happen, the nodes are the same.
-/

namespace Stencil.Template

/-! ## The last tag -/

/-- A tag that would disappear with its line, and its indentation with it, if the line ended behind
it. -/
structure Visit.KeepsIndentation (visit : Visit) : Prop where
  organises : visit.occurrence.tag.isInterpolation = false
  begins : Placement.beginsLine visit.cursor visit.occurrence.content = true
  stays : visit.lineBreak? = none
  indented : visit.occurrence.blank ≠ []

/-- A visit takes up the source of its tag, which is not empty. -/
theorem Visit.IsNext.text_ne_nil {visit : Visit} {delimiters : Delimiters}
    (isNext : visit.IsNext delimiters) : visit.text ≠ [] := by
  intro nothing
  have shorter : visit.next.rest.length < visit.cursor.rest.length :=
    Placement.next_shorter isNext
  rw [isNext.splits, nothing, List.nil_append] at shorter
  exact Nat.lt_irrefl _ shorter

section Visit

variable {tail skipped : Text} {whole part : Visit}

/-- With a tag that disappears with its line in the excerpt only, its indentation and the line break
are lost. -/
theorem Visit.lost_eq {lineBreak : Text} (stays : whole.lineBreak? = none)
    (breaks : part.lineBreak? = some lineBreak) :
    whole.lost part = part.occurrence.blank ++ lineBreak := by
  simp [Visit.lost, stays, breaks]

/-- Nothing is lost with a tag before which a line begins in the template if one begins in the
excerpt, unless the end of the excerpt takes its indentation away. -/
theorem Visit.Excerpt.lost_eq_nil (cut : whole.Excerpt tail skipped part)
    (begins : Placement.beginsLine part.cursor part.occurrence.content = true →
      Placement.beginsLine whole.cursor whole.occurrence.content = true)
    (edge : part.occurrence.rest = [] → ¬ whole.KeepsIndentation) : whole.lost part = [] := by
  cases stays : whole.lineBreak? with
  | some lineBreak => simp [Visit.lost, stays]
  | none =>
    cases breaks : part.lineBreak? with
    | none => simp [Visit.lost, stays, breaks]
    | some lineBreak =>
      obtain ⟨organises, partBegins, ends⟩ := Visit.lineBreak?_eq_some_iff.mp breaks
      rw [← cut.tag] at organises
      by_cases atEnd : part.occurrence.rest = []
      · rw [atEnd] at ends
        obtain rfl : [] = lineBreak := Option.some.inj ends
        have notIndented : whole.occurrence.blank = [] :=
          Classical.byContradiction fun indented =>
            edge atEnd ⟨organises, begins partBegins, stays, indented⟩
        rw [Visit.lost_eq stays breaks, ← cut.blank, notIndented]
        rfl
      · have wholeEnds := lineEnd?_append ends atEnd tail
        rw [← cut.rest] at wholeEnds
        rw [Visit.lineBreak?_eq_some_iff.mpr ⟨organises, begins partBegins, wholeEnds⟩] at stays
        simp at stays

/-- Where a line begins at a place in the template if one begins there in the excerpt, one begins
before the next tag in the template if one begins in the excerpt. -/
theorem Visit.Excerpt.beginsLine_of_atLineStart (cut : whole.Excerpt tail skipped part)
    (clear : skipped = [] → part.occurrence.content = [] → part.cursor.atLineStart = true →
      whole.cursor.atLineStart = true)
    (begins : Placement.beginsLine part.cursor part.occurrence.content = true) :
    Placement.beginsLine whole.cursor whole.occurrence.content = true := by
  rw [Placement.beginsLine_eq] at begins ⊢
  rw [cut.content]
  by_cases noContent : part.occurrence.content = []
  · rw [if_pos noContent] at begins
    rw [noContent, List.append_nil]
    split
    · rename_i nothing
      exact clear nothing noContent begins
    · rename_i something
      rw [(getLast?_of_lineEnd? cut.cursor.isBreak).resolve_left something]
      rfl
  · rw [if_neg noContent] at begins
    rw [if_neg (List.append_ne_nil_of_right_ne_nil skipped noContent), List.getLast?_append,
      List.getLast?_eq_some_getLast noContent, Option.some_or]
    rwa [List.getLast?_eq_some_getLast noContent] at begins

/-- At the end of the excerpt the indentation of a tag is lost that keeps it in the template. -/
theorem Visit.Excerpt.lost_ne_nil (cut : whole.Excerpt tail skipped part)
    (keeps : whole.KeepsIndentation) (atEnd : part.next.rest = []) : whole.lost part ≠ [] := by
  have rest := part.rest_eq
  rw [atEnd, List.append_nil] at rest
  cases breaks : part.lineBreak? with
  | some lineBreak =>
    rw [Visit.lost_eq keeps.stays breaks, ← cut.blank]
    exact List.append_ne_nil_of_left_ne_nil keeps.indented lineBreak
  | none =>
    rw [breaks, Option.getD_none] at rest
    have disappears : part.lineBreak? = some [] :=
      Visit.lineBreak?_eq_some_iff.mpr
        ⟨cut.tag ▸ keeps.organises, cut.beginsLine keeps.begins, by rw [rest]; rfl⟩
    rw [breaks] at disappears
    simp at disappears

end Visit

/-! ## All tags -/

/-- From a place in a template and one in an excerpt of it on, the visits of the same tags, up to
two places that they lead to. -/
inductive Alongside (tail : Text) :
    Text → Cursor → Cursor → List (Visit × Visit) → Text → Cursor → Cursor → Prop where
  | stay {skipped whole part} (cut : Cursor.Excerpt tail skipped whole part) :
      Alongside tail skipped whole part [] skipped whole part
  | visit {skipped both further lastWhole lastPart} {whole part : Visit}
      (cut : whole.Excerpt tail skipped part)
      (onward : Alongside tail (whole.skippedBy part) whole.next part.next both further lastWhole
        lastPart) :
      Alongside tail skipped whole.cursor part.cursor ((whole, part) :: both) further lastWhole
        lastPart

namespace Alongside

/-- What disappears only in the excerpt. -/
def lost (both : List (Visit × Visit)) : Text :=
  both.flatMap fun (whole, part) => whole.lost part

@[simp] theorem lost_cons (whole part : Visit) (both : List (Visit × Visit)) :
    lost ((whole, part) :: both) = whole.lost part ++ lost both :=
  List.flatMap_cons

@[simp] theorem lost_append (first second : List (Visit × Visit)) :
    lost (first ++ second) = lost first ++ lost second :=
  List.flatMap_append

/-- What is lost with the last tag is lost. -/
theorem lost_ne_nil_of_mem {both : List (Visit × Visit)} {pair : Visit × Visit}
    (member : pair ∈ both) (loses : pair.1.lost pair.2 ≠ []) : lost both ≠ [] := by
  intro nothing
  exact loses (List.flatMap_eq_nil_iff.mp nothing pair member)

variable {tail skipped further : Text} {whole part lastWhole lastPart : Cursor}
  {both : List (Visit × Visit)}

/-- The places that are led to are places of an excerpt again. -/
theorem excerpt (along : Alongside tail skipped whole part both further lastWhole lastPart) :
    lastWhole.Excerpt tail further lastPart := by
  induction along with
  | stay cut => exact cut
  | visit _ _ inductionHypothesis => exact inductionHypothesis

/-- Without visits one stays where one is. -/
theorem stays (along : Alongside tail skipped whole part [] further lastWhole lastPart) :
    further = skipped ∧ lastPart = part := by
  cases along with
  | stay => exact ⟨rfl, rfl⟩

/-- The first visits are from where one is. -/
theorem first {first : Visit × Visit}
    (along : Alongside tail skipped whole part (first :: both) further lastWhole lastPart) :
    first.1.cursor = whole ∧ first.2.cursor = part ∧ first.1.Excerpt tail skipped first.2 := by
  cases along with
  | visit cut => exact ⟨rfl, rfl, cut⟩

/-- One can go on from the places that are led to. -/
theorem trans {later : List (Visit × Visit)} {left : Text} {wholeEnd partEnd : Cursor}
    (along : Alongside tail skipped whole part both further lastWhole lastPart)
    (onward : Alongside tail further lastWhole lastPart later left wholeEnd partEnd) :
    Alongside tail skipped whole part (both ++ later) left wholeEnd partEnd := by
  induction along with
  | stay => exact onward
  | visit cut _ inductionHypothesis => exact .visit cut (inductionHypothesis onward)

/-- The template keeps what is lost in the excerpt. -/
theorem length_keptSource
    (along : Alongside tail skipped whole part both further lastWhole lastPart) :
    ((both.map Prod.snd).flatMap fun visit => visit.placement.keptSource).length +
        skipped.length + (lost both).length =
      ((both.map Prod.fst).flatMap fun visit => visit.placement.keptSource).length +
        further.length := by
  induction along with
  | stay => simp [lost]
  | visit cut _ inductionHypothesis =>
    have kept := cut.length_keptSource
    simp only [List.map_cons, List.flatMap_cons, List.length_append, lost_cons] at kept ⊢
    omega

/-- With nothing skipped and nothing lost, nothing is skipped in the end. -/
theorem further_eq_nil
    (along : Alongside tail skipped whole part both further lastWhole lastPart)
    (exact : skipped = []) (nothing : lost both = []) : further = [] := by
  induction along with
  | stay => exact exact
  | visit cut _ inductionHypothesis =>
    rw [lost_cons] at nothing
    obtain ⟨here, later⟩ := List.append_eq_nil_iff.mp nothing
    exact inductionHypothesis (cut.skippedBy_eq_nil here) later

/-- With nothing skipped and nothing lost, the same text is taken up. -/
theorem textOf_eq
    (along : Alongside tail skipped whole part both further lastWhole lastPart)
    (exact : skipped = []) (nothing : lost both = []) :
    Visit.textOf (both.map Prod.snd) = Visit.textOf (both.map Prod.fst) := by
  induction along with
  | stay => rfl
  | visit cut _ inductionHypothesis =>
    subst exact
    rw [lost_cons] at nothing
    obtain ⟨here, later⟩ := List.append_eq_nil_iff.mp nothing
    rw [List.map_cons, List.map_cons, Visit.textOf_cons, Visit.textOf_cons,
      (cut.same here).2.2.2, inductionHypothesis (cut.skippedBy_eq_nil here) later]

/-- Behind the last tag of the excerpt nothing is left if the excerpt ends behind it. -/
theorem left_eq_nil
    (along : Alongside tail skipped whole part both further lastWhole lastPart) :
    ∀ pair ∈ both.getLast?, pair.2.occurrence.rest = [] → further = [] ∧ lastPart.rest = [] := by
  induction along with
  | stay => simp
  | @visit skipped both further lastWhole lastPart whole part cut onward inductionHypothesis =>
    intro pair isLast atEnd
    cases both with
    | nil =>
      obtain rfl : (whole, part) = pair := Option.some.inj isLast
      obtain ⟨rfl, rfl⟩ := onward.stays
      rw [part.rest_eq] at atEnd
      obtain ⟨noBreak, noRest⟩ := List.append_eq_nil_iff.mp atEnd
      refine ⟨?_, noRest⟩
      unfold Visit.skippedBy
      split
      · rfl
      · exact noBreak
    | cons second others =>
      rw [List.getLast?_cons_cons] at isLast
      exact inductionHypothesis pair isLast atEnd

/-- What disappears only in the excerpt disappears with the first tag or with the last one. -/
theorem lost_eq_nil
    (along : Alongside tail skipped whole part both further lastWhole lastPart)
    (start : ∀ pair ∈ both.head?, pair.1.lost pair.2 = [] ∨
      (Placement.beginsLine pair.2.cursor pair.2.occurrence.content = true →
        Placement.beginsLine pair.1.cursor pair.1.occurrence.content = true))
    (edge : ∀ pair ∈ both.getLast?, pair.2.occurrence.rest = [] →
      ¬ pair.1.KeepsIndentation) : lost both = [] := by
  induction along with
  | stay => rfl
  | @visit skipped both further lastWhole lastPart whole part cut onward inductionHypothesis =>
    have edgeHere : part.occurrence.rest = [] → ¬ whole.KeepsIndentation := by
      intro atEnd
      cases both with
      | nil => exact edge (whole, part) rfl atEnd
      | cons second others =>
        -- The text of the next tag is left behind this one.
        obtain ⟨-, atPart, nextCut⟩ := onward.first
        obtain ⟨_, -, -, nextIsNext⟩ := nextCut.isNext
        have rest := part.rest_eq
        rw [atEnd, ← atPart, nextIsNext.splits] at rest
        have noRest := (List.append_eq_nil_iff.mp rest.symm).2
        exact absurd (List.append_eq_nil_iff.mp noRest).1 nextIsNext.text_ne_nil
    have here : whole.lost part = [] := by
      rcases start (whole, part) rfl with nothing | begins
      · exact nothing
      · exact cut.lost_eq_nil begins edgeHere
    rw [lost_cons, here, List.nil_append]
    have same := cut.exactNext (cut.sameBreak here)
    cases both with
    | nil => rfl
    | cons second others =>
      apply inductionHypothesis
      · intro pair isFirst
        obtain rfl : second = pair := Option.some.inj isFirst
        obtain ⟨atWhole, atPart, nextCut⟩ := onward.first
        rw [← atWhole, ← atPart] at same
        exact .inr (nextCut.beginsLine_of_atLineStart fun _ _ begins => same.begins.trans begins)
      · intro pair isLast
        exact edge pair (by rwa [List.getLast?_cons_cons])

/-- With the last tag the indentation is lost that it keeps in the template, if nothing is left
behind it. -/
theorem lost_ne_nil_of_last
    (along : Alongside tail skipped whole part both further lastWhole lastPart)
    (atEnd : lastPart.rest = []) :
    ∀ pair ∈ both.getLast?, pair.1.KeepsIndentation → pair.1.lost pair.2 ≠ [] := by
  induction along with
  | stay => simp
  | @visit skipped both further lastWhole lastPart whole part cut onward inductionHypothesis =>
    intro pair isLast keeps
    cases both with
    | nil =>
      obtain rfl : (whole, part) = pair := Option.some.inj isLast
      obtain ⟨-, rfl⟩ := onward.stays
      exact cut.lost_ne_nil keeps atEnd
    | cons second others =>
      rw [List.getLast?_cons_cons] at isLast
      exact inductionHypothesis atEnd pair isLast keeps

end Alongside

/-! ## Passages -/

section Passage

variable {delimiters active : Delimiters} {cursor last part : Cursor} {visits : List Visit}
  {pairs : List (Visit × Visit)} {nodes : List Node} {tail skipped left : Text}

/-- From every tag on there is the text up to the tail. -/
theorem Visit.IsNext.reaches {visit : Visit} (isNext : visit.IsNext delimiters)
    (reaches : visit.next.rest = left ++ tail) :
    visit.cursor.rest = visit.text ++ left ++ tail := by
  rw [isNext.splits, reaches, List.append_assoc]

/-- From every place of a passage on there is the text up to its end. -/
theorem Passage.reaches (passage : Passage delimiters cursor visits pairs nodes active last)
    (reaches : last.rest = left ++ tail) :
    cursor.rest = Visit.textOf visits ++ left ++ tail := by
  rw [passage.splits, reaches, List.append_assoc]

/-- A passage up to a place before the tail is one through the excerpt as well. It comes to nodes
with the same outline, and to the same nodes if nothing disappears only in the excerpt. -/
theorem Passage.exists_alongside
    (passage : Passage delimiters cursor visits pairs nodes active last)
    (solid : delimiters.AreSolid) (cut : cursor.Excerpt tail skipped part)
    (reaches : last.rest = left ++ tail) :
    ∃ both partPairs partNodes further place,
      Alongside tail skipped cursor part both further last place ∧ both.map Prod.fst = visits ∧
        Passage delimiters part (both.map Prod.snd) partPairs partNodes active place ∧
        Node.outlineAll partNodes = Node.outlineAll nodes ∧
        (skipped = [] → Alongside.lost both = [] → partNodes = nodes) := by
  induction passage generalizing skipped part left with
  | stay => exact ⟨[], [], [], skipped, part, .stay cut, rfl, .stay, rfl, fun _ _ => rfl⟩
  | @emit delimiters visit nodes visits pairs more active last isNext asked onward
      inductionHypothesis =>
    obtain ⟨visitPart, rfl, partIsNext, visitCut⟩ :=
      isNext.exists_excerpt solid cut (onward.reaches reaches)
    obtain ⟨others, othersAsked, sameOutline⟩ := visitCut.exists_emit asked
    obtain ⟨both, partPairs, partMore, further, place, along, rfl, partOnward, outline, same⟩ :=
      inductionHypothesis solid visitCut.next reaches
    refine ⟨(visit, visitPart) :: both, partPairs, _, further, place, .visit visitCut along, rfl,
      .emit partIsNext othersAsked partOnward, by simp [sameOutline, outline], ?_⟩
    rintro rfl nothing
    obtain ⟨here, later⟩ := List.append_eq_nil_iff.mp nothing
    obtain ⟨sameKept, -, sameRequest, -⟩ := visitCut.same here
    rw [sameRequest, asked] at othersAsked
    rw [sameKept, Tag.Request.emit.inj othersAsked, same (visitCut.skippedBy_eq_nil here) later]
  | @change delimiters visit changed visits pairs more active last isNext asked onward
      inductionHypothesis =>
    obtain ⟨visitPart, rfl, partIsNext, visitCut⟩ :=
      isNext.exists_excerpt solid cut (onward.reaches reaches)
    have partAsked := (visitCut.request_eq (by simp [asked])).trans asked
    obtain ⟨both, partPairs, partMore, further, place, along, rfl, partOnward, outline, same⟩ :=
      inductionHypothesis (areSolid_of_request asked) visitCut.next reaches
    refine ⟨(visit, visitPart) :: both, partPairs, _, further, place, .visit visitCut along, rfl,
      .change partIsNext partAsked partOnward, by simp [outline], ?_⟩
    rintro rfl nothing
    obtain ⟨here, later⟩ := List.append_eq_nil_iff.mp nothing
    rw [(visitCut.same here).1, same (visitCut.skippedBy_eq_nil here) later]
  | @block delimiters opening name inverted inside insidePairs body inner closing visits pairs more
      active last isNext asked bodyPassage closingIsNext closingAsked onward bodyHypothesis
      inductionHypothesis =>
    have reachesClosing := closingIsNext.reaches (onward.reaches reaches)
    obtain ⟨openingPart, rfl, openingIsNext, openingCut⟩ :=
      isNext.exists_excerpt solid cut (bodyPassage.reaches reachesClosing)
    have openingAsked := (openingCut.request_eq (by simp [asked])).trans asked
    obtain ⟨bodyBoth, bodyPairs, partBody, bodyFurther, _, bodyAlong, rfl, bodyOnward, bodyOutline,
      bodySame⟩ := bodyHypothesis solid openingCut.next reachesClosing
    obtain ⟨closingPart, rfl, closingPartIsNext, closingCut⟩ :=
      closingIsNext.exists_excerpt (bodyPassage.areSolid solid) bodyAlong.excerpt
        (onward.reaches reaches)
    have closingPartAsked := (closingCut.request_eq (by simp [closingAsked])).trans closingAsked
    obtain ⟨both, partPairs, partMore, further, place, along, rfl, partOnward, outline, same⟩ :=
      inductionHypothesis solid closingCut.next reaches
    have whole := Alongside.visit openingCut (bodyAlong.trans (.visit closingCut along))
    have part := Passage.block openingIsNext openingAsked bodyOnward closingPartIsNext
      closingPartAsked partOnward
    refine ⟨_, _, _, further, place, whole, by simp, by simpa using part,
      by simp [bodyOutline, outline], ?_⟩
    rintro rfl nothing
    simp only [Alongside.lost_cons, Alongside.lost_append, List.append_eq_nil_iff] at nothing
    obtain ⟨atOpening, inBody, atClosing, later⟩ := nothing
    have openingSkips := openingCut.skippedBy_eq_nil atOpening
    obtain rfl := bodyAlong.further_eq_nil openingSkips inBody
    obtain ⟨openingKept, -⟩ := openingCut.same atOpening
    obtain ⟨closingKept, closingSource, -⟩ := closingCut.same atClosing
    rw [openingKept, closingKept, closingSource, bodySame openingSkips inBody,
      bodyAlong.textOf_eq openingSkips inBody, same (closingCut.skippedBy_eq_nil atClosing) later]

end Passage

end Stencil.Template
