import Stencil.Proofs.Tag.Append
import Stencil.Proofs.Template.Machine
import Stencil.Proofs.Template.Place

/-!
# Templates behind templates

A template that is self-contained and can be parsed has the same tags whatever is written behind it
(`Passage.append`), and the text that follows its last tag only adds to the first text of what is
written there (`merged_levelParts_past`). So parsing both together comes to the nodes of the one and
then of the other, up to neighbouring texts that become one text; and if what is written behind
cannot be parsed, the report is the same, as many lines further down as the first template has
(`result_append`).
-/

namespace Stencil

/-! ## Neighbouring texts -/

namespace Node

/-- Nodes behind a text, which becomes one with the text that they begin with. -/
def joinText (text : Text) : List Node → List Node
  | .literal next :: nodes => .literal (text ++ next) :: nodes
  | nodes => .literal text :: nodes

/-- Nodes with neighbouring texts made one. -/
def merged : List Node → List Node
  | [] => []
  | .literal text :: nodes => joinText text (merged nodes)
  | node :: nodes => node :: merged nodes

/-- Two texts are joined one after the other. -/
theorem joinText_joinText (first second : Text) (nodes : List Node) :
    joinText first (joinText second nodes) = joinText (first ++ second) nodes := by
  cases nodes with
  | nil => rfl
  | cons node nodes => cases node <;> simp [joinText]

/-- Nodes are merged behind other nodes as they are alone. -/
theorem merged_append_congr (before : List Node) {nodes others : List Node}
    (same : merged nodes = merged others) :
    merged (before ++ nodes) = merged (before ++ others) := by
  induction before with
  | nil => exact same
  | cons node before inductionHypothesis =>
    cases node <;> simp [merged, inductionHypothesis]

/-- A text is one with the two texts that it consists of. -/
theorem merged_literals_append (first second : Text) (nodes : List Node) :
    merged (literals (first ++ second) ++ nodes) =
      merged (literals first ++ (literals second ++ nodes)) := by
  cases first with
  | nil => rfl
  | cons start first =>
    cases second with
    | nil => simp [literals]
    | cons point second => simp [literals, merged, joinText_joinText]

end Node

/-! ## Tags with more text behind them -/

/-- A place with more text behind the template. -/
def Cursor.append (tail : Text) (cursor : Cursor) : Cursor :=
  { cursor with rest := cursor.rest ++ tail }

/-- The end of a line is the same with more text behind it. -/
theorem lineEnd?_append_eq {text : Text} (ends : text.getLast? = some (.char '\n')) (tail : Text) :
    lineEnd? (text ++ tail) = lineEnd? text := by
  match text, ends with
  | [point], ends =>
    obtain rfl : point = .char '\n' := by simpa using ends
    rfl
  | first :: second :: text, _ =>
    simp only [List.cons_append]
    unfold lineEnd?
    split <;> simp_all

/-- What becomes of the text around a tag does not depend on what is written behind a text that goes
on behind the tag. -/
theorem Placement.of_append (cursor : Cursor) {occurrence : Tag.Occurrence}
    (ends : occurrence.rest.getLast? = some (.char '\n')) (tail : Text) :
    Placement.of (cursor.append tail) (occurrence.append tail) =
      { Placement.of cursor occurrence with
        next := (Placement.of cursor occurrence).next.append tail } := by
  have sameBreak : lineBreak? (cursor.append tail) (occurrence.append tail) =
      lineBreak? cursor occurrence := by
    unfold lineBreak?
    rw [Tag.Occurrence.append, lineEnd?_append_eq ends]
    rfl
  unfold Placement.of
  rw [sameBreak]
  cases breaks : lineBreak? cursor occurrence with
  | none => rfl
  | some lineBreak =>
    have within : lineBreak.length ≤ occurrence.rest.length := by
      have splits := congrArg List.length (Placement.rest_eq cursor occurrence)
      rw [breaks, Option.getD_some, List.length_append] at splits
      omega
    simp [Tag.Occurrence.append, Cursor.append, Cursor.past, List.drop_append_of_le_length within]

namespace Template

section Append

variable {tail : Text}

/-- A visit with more text behind the template. -/
def Visit.append (tail : Text) (visit : Visit) : Visit :=
  ⟨visit.cursor.append tail, visit.occurrence.append tail⟩

/-- A visit of a tag that is the same with more text behind the template. -/
structure Visit.Keeps (tail : Text) (visit : Visit) : Prop where
  isNext : (visit.append tail).IsNext .standard
  placement : (visit.append tail).placement =
    { visit.placement with next := visit.next.append tail }

/-- A tag of a self-contained text is the same with more text behind it. -/
theorem Visit.IsNext.keeps {visit : Visit} (isNext : visit.IsNext .standard)
    (contained : visit.cursor.rest.IsSelfContained) (tail : Text) : visit.Keeps tail := by
  have solid : Delimiters.standard.AreSolid := by decide
  refine ⟨Tag.find?_append contained isNext tail, Placement.of_append visit.cursor ?_ tail⟩
  obtain ⟨splits, nonempty⟩ := Tag.find?_splits isNext
  have rest : visit.occurrence.rest.IsSelfContained := by
    rw [splits] at contained
    exact contained.of_append
  apply rest.getLast?
  -- The text ends with a line feed, and the tag does not.
  intro nothing
  obtain ⟨last, isLast, notSpace⟩ :=
    Tag.source_getLast?_of_read? solid (Tag.isFirstIn_of_find? solid isNext).reads
  have something : visit.cursor.rest ≠ [] := by
    rw [splits]
    simp [nonempty]
  have feed := contained.getLast? something
  rw [splits, nothing, List.append_nil, List.getLast?_append, isLast, Option.some_or] at feed
  obtain rfl := Option.some.inj feed
  exact absurd notSpace (by decide)

namespace Visit.Keeps

variable {visit : Visit}

theorem next (keeps : visit.Keeps tail) : (visit.append tail).next = visit.next.append tail :=
  congrArg Placement.next keeps.placement

theorem kept (keeps : visit.Keeps tail) :
    (visit.append tail).placement.kept = visit.placement.kept := by
  rw [keeps.placement]

theorem keptSource (keeps : visit.Keeps tail) :
    (visit.append tail).placement.keptSource = visit.placement.keptSource := by
  rw [keeps.placement]

theorem text (keeps : visit.Keeps tail) : (visit.append tail).text = visit.text := by
  rw [Visit.text, keeps.placement]
  rfl

theorem request (keeps : visit.Keeps tail) : (visit.append tail).request = visit.request := by
  rw [Visit.request, keeps.placement]
  rfl

end Visit.Keeps

variable {delimiters active : Delimiters} {cursor last : Cursor} {visits : List Visit}
  {pairs : List (Visit × Visit)} {nodes : List Node}

/-- A passage through a self-contained text that sets no delimiters is one with more text behind
it. -/
theorem Passage.append (passage : Passage delimiters cursor visits pairs nodes active last)
    (standard : delimiters = .standard) (contained : cursor.rest.IsSelfContained)
    (sets : ∀ visit ∈ visits, ∀ changed, visit.request ≠ .change changed) (tail : Text) :
    active = .standard ∧
      Passage .standard (cursor.append tail) (visits.map (Visit.append tail))
        (pairs.map (Prod.map (Visit.append tail) (Visit.append tail))) nodes .standard
        (last.append tail) ∧
      Visit.textOf (visits.map (Visit.append tail)) = Visit.textOf visits := by
  induction passage with
  | stay => exact ⟨standard, .stay, rfl⟩
  | @emit delimiters visit nodes visits pairs more active last isNext asked further
      inductionHypothesis =>
    subst standard
    have keeps := isNext.keeps contained tail
    rw [isNext.splits] at contained
    obtain ⟨isStandard, appended, sameText⟩ :=
      inductionHypothesis rfl contained.of_append
        (fun other member => sets other (List.mem_cons_of_mem visit member))
    refine ⟨isStandard, ?_, ?_⟩
    · rw [← keeps.kept]
      exact .emit keeps.isNext (keeps.request.trans asked) (keeps.next ▸ appended)
    · simp only [List.map_cons, Visit.textOf_cons, keeps.text, sameText]
  | @change delimiters visit changed visits pairs more active last isNext asked further
      inductionHypothesis => exact absurd asked (sets visit List.mem_cons_self changed)
  | @block delimiters opening name inverted inside insidePairs body inner closing visits pairs more
      active last isNext asked bodyPassage closingIsNext closingAsked further within beyond =>
    subst standard
    have keepsOpening := isNext.keeps contained tail
    rw [isNext.splits] at contained
    obtain ⟨innerStandard, bodyAppended, bodyText⟩ :=
      within rfl contained.of_append (fun other member =>
        sets other (List.mem_cons_of_mem opening (List.mem_append_left _ member)))
    have atClosing : closing.cursor.rest.IsSelfContained := by
      have inBody := contained.of_append
      rw [bodyPassage.splits] at inBody
      exact inBody.of_append
    rw [innerStandard] at closingIsNext
    have keepsClosing := closingIsNext.keeps atClosing tail
    rw [closingIsNext.splits] at atClosing
    obtain ⟨isStandard, appended, sameText⟩ :=
      beyond rfl atClosing.of_append (fun other member =>
        sets other (List.mem_cons_of_mem opening
          (List.mem_append_right inside (List.mem_cons_of_mem closing member))))
    refine ⟨isStandard, ?_, ?_⟩
    · have block := Passage.block keepsOpening.isNext (keepsOpening.request.trans asked)
        (keepsOpening.next ▸ bodyAppended) keepsClosing.isNext
        (keepsClosing.request.trans closingAsked) (keepsClosing.next ▸ appended)
      rw [keepsOpening.kept, keepsClosing.kept, keepsClosing.keptSource, bodyText] at block
      simp only [List.map_cons, List.map_append]
      exact block
    · simp [keepsOpening.text, keepsClosing.text, bodyText, sameText]

end Append

/-! ## The text after the last tag -/

section Past

variable {delimiters : Delimiters} {cursor : Cursor} {skipped rest : Text}

/-- What becomes of the text around a tag from a place behind some of that text. -/
theorem placement_past (cursor : Cursor) (skipped rest : Text) (occurrence : Tag.Occurrence) :
    ∃ kept, (Placement.of cursor (occurrence.prepend skipped)).kept =
        Node.literals (skipped ++ occurrence.content) ++ kept ∧
      (Placement.of (cursor.past skipped rest) occurrence).kept =
        Node.literals occurrence.content ++ kept ∧
      (Placement.of cursor (occurrence.prepend skipped)).next =
        (Placement.of (cursor.past skipped rest) occurrence).next ∧
      (Placement.of cursor (occurrence.prepend skipped)).indent =
        (Placement.of (cursor.past skipped rest) occurrence).indent := by
  have sameBreak : Placement.lineBreak? cursor (occurrence.prepend skipped) =
      Placement.lineBreak? (cursor.past skipped rest) occurrence := by
    unfold Placement.lineBreak? Placement.beginsLine
    simp only [Tag.Occurrence.prepend, List.getLast?_append, Cursor.past, Option.or_assoc]
    rfl
  have past : ∀ piece further, cursor.past (skipped ++ piece) further =
      (cursor.past skipped rest).past piece further := by
    intro piece further
    simp only [Cursor.past, List.getLast?_append, Option.or_assoc, Text.lineBreaks_append,
      Nat.add_assoc]
  unfold Placement.of
  rw [sameBreak]
  cases Placement.lineBreak? (cursor.past skipped rest) occurrence with
  | some lineBreak =>
    exact ⟨[], by simp [Tag.Occurrence.prepend], by simp,
      by simp [Tag.Occurrence.prepend, past], rfl⟩
  | none =>
    exact ⟨Node.literals occurrence.blank, rfl, rfl, by simp [Tag.Occurrence.prepend, past], rfl⟩

/-- A text joins the first text of a level, whatever the level comes to. -/
theorem map_merged_prepend (result : Except ParseError Parts) (skipped content : Text)
    (nodes : List Node) (source other : Text) :
    (result.map (Parts.prepend (Node.literals (skipped ++ content) ++ nodes) source)).map
        (fun parts => Node.merged parts.nodes) =
      (result.map (Parts.prepend (Node.literals content ++ nodes) other)).map
        fun parts => Node.merged (Node.literals skipped ++ parts.nodes) := by
  cases result <;> simp [Except.map, Parts.prepend, Node.merged_literals_append]

/-- A text that is no part of a tag can be taken to be before the place that parsing begins at. -/
theorem merged_levelParts_past (enclosing : Option Text) (atRest : cursor.rest = skipped ++ rest)
    (adds : Tag.find? delimiters cursor.rest =
      (Tag.find? delimiters rest).map (Tag.Occurrence.prepend skipped)) :
    (levelParts enclosing delimiters cursor).map (fun parts => Node.merged parts.nodes) =
      (levelParts enclosing delimiters (cursor.past skipped rest)).map fun parts =>
        Node.merged (Node.literals skipped ++ parts.nodes) := by
  cases found : Tag.find? delimiters rest with
  | none =>
    have absent : Tag.find? delimiters cursor.rest = none := by rw [adds, found]; rfl
    have absentPast : Tag.find? delimiters (cursor.past skipped rest).rest = none := found
    rw [levelParts, levelParts, parts_of_absent absent, parts_of_absent absentPast, atRest]
    have merged := Node.merged_literals_append skipped rest []
    simp only [List.append_nil] at merged
    exact congrArg Except.ok merged
  | some occurrence =>
    have isNext : Visit.IsNext ⟨cursor, occurrence.prepend skipped⟩ delimiters := by
      rw [Visit.IsNext, adds, found]
      rfl
    have isNextPast : Visit.IsNext ⟨cursor.past skipped rest, occurrence⟩ delimiters := found
    obtain ⟨kept, whole, part, next, indent⟩ := placement_past cursor skipped rest occurrence
    have breaks : Visit.breaks ⟨cursor, occurrence.prepend skipped⟩ =
        Visit.breaks ⟨cursor.past skipped rest, occurrence⟩ := by
      simp [Visit.breaks, Tag.Occurrence.prepend, Cursor.past, Nat.add_assoc]
    have request : Visit.request ⟨cursor, occurrence.prepend skipped⟩ =
        Visit.request ⟨cursor.past skipped rest, occurrence⟩ := by
      rw [Visit.request, Visit.request, Visit.placement, Visit.placement, indent]
      rfl
    rw [levelParts, levelParts, parts_at_tag isNext, parts_at_tag isNextPast]
    simp only [parts_eq_levelParts, request, breaks, Visit.next, Visit.placement, next, whole, part]
    cases Visit.request ⟨cursor.past skipped rest, occurrence⟩ with
    | emit nodes =>
      simp only [List.append_assoc]
      apply map_merged_prepend
    | change changed => apply map_merged_prepend
    | opens name inverted =>
      dsimp only
      cases levelParts (some name) delimiters
          (Placement.of (cursor.past skipped rest) occurrence).next with
      | error error => rfl
      | ok body =>
        simp only [Except.bind, List.append_assoc]
        cases body.next with
        | none => rfl
        | some place => apply map_merged_prepend
    | closes name =>
      cases enclosing with
      | none => rfl
      | some expected =>
        by_cases same : name = expected
        · simp [same, Except.map, Node.merged_literals_append]
        · simp [same, Except.map]
    | refused cause => rfl

end Past

/-! ## Two templates -/

/-- Only tags with one sign set delimiters. -/
theorem sign_of_request_eq_change {indent : Text} {tag : Tag} {changed : Delimiters}
    (asked : tag.request indent = .change changed) : tag.form.sign = some (.char '=') := by
  unfold Tag.request at asked
  cases sign : tag.form.sign with
  | none => simp [sign] at asked
  | some point =>
    simp only [sign] at asked
    split at asked
    · simp at asked
    · split at asked
      · simp at asked
      · split at asked
        · simp at asked
        · split at asked
          · rename_i isSign
            rw [isSign]
          · repeat' split at asked
            all_goals simp at asked

section Result

variable {first second : Text}

/-- Parsing goes through the first of two templates, and from its last tag on. -/
theorem parse_append_eq {visits : List Visit} {pairs : List (Visit × Visit)} {inner : List Node}
    {active : Delimiters} {last : Cursor}
    (passage : Passage .standard (.start first) visits pairs inner active last)
    (contained : first.IsSelfContained)
    (sets : ∀ visit ∈ visits, ∀ changed, visit.request ≠ .change changed) (second : Text) :
    (parse .standard (first ++ second)).2 =
      (levelParts none .standard (last.append second)).map fun parts => inner ++ parts.nodes := by
  obtain ⟨-, appended, -⟩ := passage.append rfl contained sets second
  have parts := appended.parts_eq none
  change levelParts none .standard (.start (first ++ second)) = _ at parts
  rw [parse_eq_map_parts, parts_eq_levelParts, parts, parts_eq_levelParts]
  cases levelParts none .standard (last.append second) <;> rfl

/-- Behind the first of two templates parsing comes to what the second one comes to, and a report is
further down by the lines of the first one. -/
theorem levelParts_append_past {last : Cursor} {passed : Text}
    (stands : last.Stands first passed) (contained : first.IsSelfContained) (second : Text) :
    levelParts none .standard ((last.append second).past last.rest second) =
      resultBelow (Text.lineBreaks first) (levelParts none .standard (.start second)) := by
  rw [← levelParts_below]
  apply levelParts_eq_of_atLineStart
  · rfl
  · simp [Cursor.past, Cursor.append, Cursor.below, Cursor.start, stands.breaks, stands.splits]
  · have ends : (last.rest.getLast?.or last.previous) = first.getLast? := by
      rw [stands.previous, stands.splits, List.getLast?_append]
    change (last.rest.getLast?.or last.previous).all (· == .char '\n') = true
    rw [ends]
    rcases contained.ends with rfl | feed
    · rfl
    · rw [feed]
      rfl

/-- Nodes in front of what two levels come to, up to neighbouring texts. -/
theorem map_merged_append {whole part : Except ParseError Parts} {lines : Nat}
    (inner : List Node) (skipped : Text)
    (behind : whole.map (fun parts => Node.merged parts.nodes) =
      (resultBelow lines part).map fun parts =>
        Node.merged (Node.literals skipped ++ parts.nodes)) :
    (whole.map fun parts => inner ++ parts.nodes).map Node.merged =
      ((part.map Parts.nodes).map fun more =>
        Node.merged (inner ++ Node.literals skipped ++ more)).mapError
          (ParseError.below lines) := by
  cases whole with
  | error error =>
    cases part with
    | error reported => exact congrArg Except.error (Except.error.inj behind)
    | ok parts => cases behind
  | ok joined =>
    cases part with
    | error reported => cases behind
    | ok parts =>
      have merged := Node.merged_append_congr inner (Except.ok.inj behind)
      rw [← List.append_assoc] at merged
      exact congrArg Except.ok merged

/-- At the end of a template the machine has seen the tags that parsing visits, and what parsing
finds behind the last of them is behind the machine as well. -/
theorem seen_and_rest_of_run_eq_ok {visits : List Visit} {pairs : List (Visit × Visit)}
    {inner : List Node} {active : Delimiters} {last : Cursor} {final : Machine}
    (passage : Passage .standard (.start first) visits pairs inner active last)
    (absent : Tag.find? active last.rest = none)
    (finished : (Machine.start .standard first).run = .ok final) :
    final.seen = visits.map (Visit.sightingIn first) ∧ last.rest <:+ final.rest := by
  have solid : Delimiters.standard.AreSolid := by decide
  obtain ⟨later, onward, follows⟩ := passage.onward solid (.start .standard first) rfl
  have laterSolid : later.active.AreSolid := onward.active ▸ passage.areSolid solid
  have ended : later.run = .ok later := by
    rw [Machine.run_of_absent (follows.find?_eq_none laterSolid (onward.active ▸ absent)),
      onward.stack]
    rfl
  obtain rfl : later = final := Except.ok.inj (ended.symm.trans (onward.run.symm.trans finished))
  obtain ⟨skipped, -, -, rest⟩ := follows.skips
  exact ⟨onward.seen, skipped, rest.symm⟩

/-- A template that is self-contained, sets no delimiters and leaves no opening delimiter behind its
last tag can be parsed together with another one exactly if that can be parsed. The nodes are then
those of the one and of the other, with the texts between them made one. Otherwise the report is
that for the other one, further down by the lines of the first. -/
theorem result_append (capacity other both : Option Nat) {nodes : List Node} {final : Machine}
    (contained : first.IsSelfContained)
    (parsed : ((Cache.empty capacity).parse .standard first).result = .ok nodes)
    (finished : (Machine.start .standard first).run = .ok final)
    (sets : ∀ sighting ∈ final.seen, sighting.tag.form.sign ≠ some (.char '='))
    (absent : Text.holds Delimiters.standard.opening final.rest = false) (second : Text) :
    ((Cache.empty both).parse .standard (first ++ second)).result.map Node.merged =
      (((Cache.empty other).parse .standard second).result.map
        fun more => Node.merged (nodes ++ more)).mapError
          (ParseError.below (Text.lineBreaks first)) := by
  have solid : Delimiters.standard.AreSolid := by decide
  rw [Cache.parse_empty] at parsed ⊢
  rw [Cache.parse_empty]
  obtain ⟨visits, pairs, inner, active, last, passage, noTag, rfl⟩ := parse_eq_ok_iff.mp parsed
  obtain ⟨seen, suffix⟩ := seen_and_rest_of_run_eq_ok passage noTag finished
  have keeps : ∀ visit ∈ visits, ∀ changed, visit.request ≠ .change changed := by
    intro visit member changed asked
    have isSeen : visit.sightingIn first ∈ final.seen := by
      rw [seen]
      exact List.mem_map_of_mem member
    exact sets _ isSeen (sign_of_request_eq_change asked)
  have stands := passage.stands solid (.start first)
  have lastContained : last.rest.IsSelfContained := by
    rw [stands.splits] at contained
    exact contained.of_append
  have lastAbsent : Text.holds Delimiters.standard.opening last.rest = false := by
    obtain ⟨skipped, rest⟩ := suffix
    cases holds : Text.holds Delimiters.standard.opening last.rest with
    | false => rfl
    | true =>
      rw [← rest, Text.holds_append skipped holds] at absent
      simp at absent
  -- The text behind the last tag belongs to the first text of what comes behind it.
  have adds : Tag.find? .standard (last.append second).rest =
      (Tag.find? .standard second).map (Tag.Occurrence.prepend last.rest) :=
    Tag.find?_append_of_not_holds solid lastContained.ends lastAbsent second
  have behind := merged_levelParts_past none rfl adds
  rw [levelParts_append_past stands contained second] at behind
  rw [parse_append_eq passage contained keeps second, parse_eq_map_parts, parts_eq_levelParts]
  exact map_merged_append inner last.rest behind

/-- A value on a line of its own. -/
def valueLine : Text :=
  .of "\x7b\x7bx\x7d\x7d\n"

/-- A line with a value does not depend on what is written behind it. -/
theorem isSelfContained_valueLine : valueLine.IsSelfContained := by
  refine ⟨.inr rfl, fun before between behind splits => ?_⟩
  have pieces : [.char '\x7b', .char '\x7b', .char 'x', .char '\x7d', .char '\x7d', .char '\n'] =
      before ++ ([.char '\x7b', .char '\x7b'] ++
        (between ++ ([.char '\x7d', .char '\x7d'] ++ behind))) := splits
  rcases before with _ | ⟨_, _ | ⟨_, _ | ⟨_, _ | ⟨_, _ | ⟨_, _ | ⟨_, before⟩⟩⟩⟩⟩⟩
  · rcases between with _ | ⟨point, between⟩
    · simp at pieces
    · obtain ⟨rfl, -⟩ : CodePoint.char 'x' = point ∧ _ := by simpa using pieces
      exact ⟨_, List.mem_cons_self, by decide⟩
  all_goals simp at pieces

/-- Behind a line with a value, the report on a tag that closes nothing is one line further down. -/
theorem result_append_valueLine :
    ∃ nodes final, valueLine.IsSelfContained ∧
      ((Cache.empty none).parse .standard valueLine).result = .ok nodes ∧
      (Machine.start .standard valueLine).run = .ok final ∧
      (∀ sighting ∈ final.seen, sighting.tag.form.sign ≠ some (.char '=')) ∧
      Text.holds Delimiters.standard.opening final.rest = false ∧
      ((Cache.empty none).parse .standard
          (valueLine ++ .of "\x7b\x7b/s\x7d\x7d")).result.map Node.merged =
        (((Cache.empty none).parse .standard (.of "\x7b\x7b/s\x7d\x7d")).result.map
          fun more => Node.merged (nodes ++ more)).mapError
            (ParseError.below (Text.lineBreaks valueLine)) := by
  have parsed : ((Cache.empty none).parse .standard valueLine).result =
      .ok [.interpolation (.of "x") true, .literal (.of "\n")] := by
    have nodes : parse .standard valueLine =
        ([], .ok [.interpolation (.of "x") true, .literal (.of "\n")]) := by
      cbv
    rw [Cache.parse_empty, nodes]
  have finished : ∃ final, (Machine.start .standard valueLine).run = .ok final ∧
      (∀ sighting ∈ final.seen, sighting.tag.form.sign ≠ some (.char '=')) ∧
      Text.holds Delimiters.standard.opening final.rest = false := by
    refine ⟨{ Machine.start .standard valueLine with
      gathered := [.interpolation (.of "x") true]
      seen := [⟨[], .of "\x7b\x7bx\x7d\x7d", ⟨.plain none, .of "x"⟩, .of "\n"⟩]
      before := .of "\x7b\x7bx\x7d\x7d"
      rest := .of "\n" }, by cbv, ?_, by decide⟩
    simp [Tag.Form.sign]
  obtain ⟨final, run, sets, absent⟩ := finished
  exact ⟨_, final, isSelfContained_valueLine, parsed, run, sets, absent,
    result_append none none none isSelfContained_valueLine parsed run sets absent _⟩

end Result

end Template

end Stencil
