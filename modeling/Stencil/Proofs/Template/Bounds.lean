import Stencil.Proofs.Template.Scan

/-!
# The bounds of a scan

A scan that is given more rounds than there are code points left comes to what parsing comes to, and
each of its steps goes forward in the template (`scan_inBounds`). That a tag takes up at least one
code point is all that this rests on, so it holds for all delimiters, empty ones included.

What one round does is said for parsing by `Scan.outcome_at_tag`. Then a scan is followed round by
round (`Scan.comes_run`), where `Scan.Comes` is what a computation comes to if all of its steps are
in bounds, with one lemma for each thing that a scan does.
-/

namespace Stencil.Template.Scan

variable {template : Text} {α β : Type}

/-! ## Computations in bounds -/

/-- A computation comes to a result, with events that it reports, by steps in bounds. -/
def Comes (template : Text) (computation : Scan α) (events : List Event)
    (result : Except Stop α) : Prop :=
  ∀ record : Record, ∃ steps, (∀ step ∈ steps, step.IsInBounds template) ∧
    computation record = (result, record.add steps events)

/-- Adding to a record twice. -/
theorem Record.add_add (record : Record) (steps further : List Step) (events more : List Event) :
    (record.add steps events).add further more =
      record.add (steps ++ further) (events ++ more) := by
  simp [add]

/-- Adding nothing to a record. -/
theorem Record.add_nil (record : Record) : record.add [] [] = record := by
  simp [add]

/-- A result comes without steps. -/
theorem comes_pure (value : α) : Comes template (pure value : Scan α) [] (.ok value) :=
  fun record => ⟨[], by simp, by rw [Record.add_nil]; rfl⟩

/-- A stop comes without steps. -/
theorem comes_throw (stop : Stop) : Comes template (throw stop : Scan α) [] (.error stop) :=
  fun record => ⟨[], by simp, by rw [Record.add_nil]; rfl⟩

/-- A step in bounds is recorded. -/
theorem comes_note {step : Step} (inBounds : step.IsInBounds template) :
    Comes template (note step) [] (.ok ()) :=
  fun _ => ⟨[step], by simpa using inBounds, rfl⟩

/-- An event is reported without steps. -/
theorem comes_report (event : Event) : Comes template (report event) [event] (.ok ()) :=
  fun _ => ⟨[], by simp, rfl⟩

section Bind

variable {first : Scan α} {next : α → Scan β} {value : α} {result : Except Stop β}
  {events further : List Event}

/-- One computation comes after the other. -/
theorem Comes.bind (begins : Comes template first events (.ok value))
    (continues : Comes template (next value) further result) :
    Comes template (first >>= next) (events ++ further) result := by
  intro record
  obtain ⟨steps, inBounds, ran⟩ := begins record
  obtain ⟨more, moreInBounds, ranNext⟩ := continues (record.add steps events)
  refine ⟨steps ++ more, List.forall_mem_append.mpr ⟨inBounds, moreInBounds⟩, ?_⟩
  rw [bind_of_ok ran, ranNext, Record.add_add]

/-- After a computation without events the events are those of the next one. -/
theorem Comes.andThen (begins : Comes template first [] (.ok value))
    (continues : Comes template (next value) further result) :
    Comes template (first >>= next) further result :=
  begins.bind continues

/-- After a stop nothing comes. -/
theorem Comes.bind_error {stop : Stop} (begins : Comes template first events (.error stop)) :
    Comes template (first >>= next) events (.error stop) := by
  intro record
  obtain ⟨steps, inBounds, ran⟩ := begins record
  exact ⟨steps, inBounds, bind_of_error ran⟩

end Bind

/-! ## Around a tag -/

/-- A code point of the template can be read. -/
theorem comes_lookAt {index : Nat} {point : CodePoint} (isThere : template[index]? = some point) :
    Comes template (lookAt template index) [] (.ok point) := by
  obtain ⟨within, -⟩ := List.getElem?_eq_some_iff.mp isThere
  have inBounds : Step.IsInBounds template (.looked index) :=
    ⟨Int.natCast_nonneg index, Int.ofNat_lt.mpr within⟩
  refine (comes_note inBounds).andThen ?_
  have notBelow : ¬(index : Int) < 0 := Int.not_lt.mpr (Int.natCast_nonneg index)
  rw [if_neg notBelow, Int.toNat_natCast, isThere]
  exact comes_pure point

/-- The code point before a place of the template, past some text. -/
theorem getLast?_or_previous {offset : Nat} {content rest : Text}
    (splits : template.drop offset = content ++ rest) :
    content.getLast?.or (Cursor.ofOffset template offset).previous =
      (template.take (offset + content.length)).getLast? := by
  rw [Text.take_add_length splits, List.getLast?_append]
  simp [Cursor.ofOffset, Cursor.past, Cursor.start]

/-- The scan sees whether a line begins before a tag. It reads in the template, if at all. -/
theorem comes_beginsLineBehind {offset : Nat} {content rest : Text}
    (splits : template.drop offset = content ++ rest) (within : offset ≤ template.length) :
    Comes template (beginsLineBehind template (offset + content.length - 1)) []
      (.ok (Placement.beginsLine (.ofOffset template offset) content)) := by
  have lengths := congrArg List.length splits
  rw [List.length_drop, List.length_append] at lengths
  unfold Placement.beginsLine beginsLineBehind
  rw [getLast?_or_previous splits, List.getLast?_take]
  by_cases isStart : offset + content.length = 0
  · rw [if_pos (by omega), if_pos isStart]
    exact comes_pure true
  · obtain ⟨index, isNext⟩ := Nat.exists_eq_succ_of_ne_zero isStart
    have inside : index < template.length := by omega
    have isThere := List.getElem?_eq_getElem inside
    have sameIndex : (offset : Int) + content.length - 1 = index := by omega
    rw [if_neg (by omega), if_neg isStart, isNext, Nat.add_one_sub_one, isThere, Option.some_or,
      sameIndex]
    exact (comes_lookAt isThere).andThen (comes_pure _)

/-- The line break at an offset is what ends the line there. -/
theorem lineBreakAt_eq (offset : Nat) :
    lineBreakAt template offset = match lineEnd? (template.drop offset) with
      | some lineBreak => (lineBreak.length : Int)
      | none => -1 := by
  have atEnd : template.length ≤ offset ↔ template.drop offset = [] := List.drop_eq_nil_iff.symm
  unfold lineBreakAt
  simp only [atEnd]
  generalize template.drop offset = text
  fun_cases lineEnd? text with
  | case4 _ notEmpty notFeed notReturn =>
    have noFeed : ¬[.char '\n'] <+: text := fun ⟨rest, begins⟩ => notFeed rest begins.symm
    have noReturn : ¬[.char '\r', .char '\n'] <+: text := fun ⟨rest, begins⟩ =>
      notReturn rest begins.symm
    rw [if_neg noReturn, if_neg noFeed, if_neg notEmpty]
  | _ => simp_all

section Visit

variable {delimiters : Delimiters} {visit : Visit} {offset : Nat}

/-- The text from an offset on is what the visit takes up, and what is behind it. -/
theorem drop_eq_text (isNext : visit.IsNext delimiters)
    (stands : visit.cursor = .ofOffset template offset) :
    template.drop offset = visit.text ++ visit.next.rest := by
  rw [← isNext.splits, stands]
  rfl

/-- The text from an offset on has the parts of the tag's occurrence. -/
theorem drop_eq_occurrence (isNext : visit.IsNext delimiters)
    (stands : visit.cursor = .ofOffset template offset) :
    template.drop offset = visit.occurrence.content ++ (visit.occurrence.blank ++
      (visit.occurrence.source ++ visit.occurrence.rest)) := by
  have splits := (Tag.find?_splits isNext).1
  rw [stands, List.append_assoc, List.append_assoc] at splits
  exact splits

/-- The text behind a tag begins where the tag ends. -/
theorem drop_stop (isNext : visit.IsNext delimiters)
    (stands : visit.cursor = .ofOffset template offset) :
    template.drop (offset + visit.occurrence.content.length + visit.occurrence.blank.length +
      visit.occurrence.source.length) = visit.occurrence.rest :=
  Text.drop_add_length (Text.drop_add_length (Text.drop_add_length
    (drop_eq_occurrence isNext stands)))

/-- The offsets tell whether a tag disappears with its line. -/
theorem vanishes_eq (isNext : visit.IsNext delimiters)
    (stands : visit.cursor = .ofOffset template offset) :
    (Placement.beginsLine visit.cursor visit.occurrence.content &&
        decide (0 ≤ lineBreakAt template (offset + visit.occurrence.content.length +
          visit.occurrence.blank.length + visit.occurrence.source.length)) &&
        !visit.occurrence.tag.isInterpolation) = visit.lineBreak?.isSome := by
  rw [lineBreakAt_eq, drop_stop isNext stands, Visit.lineBreak?, Placement.lineBreak?]
  cases Placement.beginsLine visit.cursor visit.occurrence.content <;>
    cases visit.occurrence.tag.isInterpolation <;>
    cases lineEnd? visit.occurrence.rest <;> simp

/-- What becomes of the text around a tag does not depend on whether it is computed by offsets. -/
theorem comes_surroundings (isNext : visit.IsNext delimiters)
    (stands : visit.cursor = .ofOffset template offset) :
    Comes template (surroundings template offset visit.occurrence) []
      (.ok ⟨visit.placement.kept, visit.placement.indent,
        ((offset + visit.placement.keptSource.length : Nat) : Int),
        offset + visit.text.length⟩) := by
  have splits := drop_eq_text isNext stands
  have inside : offset + visit.text.length ≤ template.length :=
    Text.add_length_le splits isNext.text_ne_nil
  have lengths := congrArg List.length visit.text_eq
  simp only [List.length_append] at lengths
  have positive := List.length_pos_iff.mpr (Tag.find?_splits isNext).2
  have begins := comes_beginsLineBehind (drop_eq_occurrence isNext stands) (by omega)
  rw [← stands] at begins
  have found : Step.IsInBounds template (.found offset
      (offset + visit.occurrence.content.length + visit.occurrence.blank.length)
      (offset + visit.occurrence.content.length + visit.occurrence.blank.length +
        visit.occurrence.source.length)) :=
    ⟨by omega, by omega, by omega⟩
  have moved : Step.IsInBounds template (.moved offset (offset + visit.text.length)) :=
    ⟨by omega, inside⟩
  refine (comes_note found).andThen (begins.andThen ?_)
  dsimp only
  rw [vanishes_eq isNext stands, visit.kept_eq, visit.indent_eq, visit.keptSource_eq]
  cases breaks : visit.lineBreak? with
  | none =>
    have stop : offset + visit.occurrence.content.length + visit.occurrence.blank.length +
        visit.occurrence.source.length = offset + visit.text.length := by
      rw [breaks, Option.getD_none, List.length_nil] at lengths
      omega
    have cut : (offset : Int) + visit.occurrence.content.length - 1 +
        visit.occurrence.blank.length + 1 =
          ((offset + (visit.occurrence.content ++ visit.occurrence.blank).length : Nat) : Int) := by
      rw [List.length_append]
      omega
    rw [stop, cut]
    exact (comes_note moved).andThen (comes_pure _)
  | some lineBreak =>
    have ends := (Visit.lineBreak?_eq_some_iff.mp breaks).2.2
    have breakLength : lineBreakAt template (offset + visit.occurrence.content.length +
        visit.occurrence.blank.length + visit.occurrence.source.length) = lineBreak.length := by
      rw [lineBreakAt_eq, drop_stop isNext stands, ends]
    have next : offset + visit.occurrence.content.length + visit.occurrence.blank.length +
        visit.occurrence.source.length + lineBreak.length = offset + visit.text.length := by
      rw [breaks, Option.getD_some] at lengths
      omega
    have cut : (offset : Int) + visit.occurrence.content.length - 1 + 1 =
        ((offset + visit.occurrence.content.length : Nat) : Int) := by
      omega
    simp only [Option.isSome_some, if_true, List.append_nil]
    rw [breakLength, Int.toNat_natCast, next, cut]
    exact (comes_note moved).andThen (comes_pure _)

end Visit

/-! ## Whole scans -/

/-- What a scan comes to that has come to an offset with some nodes, if the level goes on with these
events and with these parts. -/
def ending (template : Text) (call : Call) (offset : Nat) (nodes : List Node)
    (events : List Event) :
    Except ParseError Parts → List Event × Except ParseError (List Node × Text × Nat)
  | .error error => (events, .error error)
  | .ok parts => match call.enclosing, parts.next with
    | none, _ => (events, .ok (nodes ++ parts.nodes, template, template.length))
    | some name, none =>
      (events, .error ⟨.unclosed name, Text.lineBreaks (template.take call.start) + 1⟩)
    | some _, some next =>
      let source := template.slice call.start offset ++ parts.source
      (events ++ [.bodyParsed call.opening source (nodes ++ parts.nodes)],
        .ok (nodes ++ parts.nodes, source, template.length - next.rest.length))

/-- What is reported from a place of a level on. -/
def levelEvents (enclosing : Option Text) (delimiters : Delimiters) (cursor : Cursor) :
    List Event :=
  (parseLevel enclosing delimiters cursor).1

/-- What is reported is what is reported from the first place on. -/
theorem events_eq_levelEvents (enclosing : Option Text) (delimiters : Delimiters)
    (cursor : Cursor) :
    (parseLevel enclosing delimiters cursor).1 = levelEvents enclosing delimiters cursor :=
  rfl

/-- What a scan comes to from a place on, by what parsing the level comes to there. -/
def outcome (template : Text) (call : Call) (place : Place) :
    List Event × Except ParseError (List Node × Text × Nat) :=
  ending template call place.offset place.nodes
    (levelEvents call.enclosing place.active (.ofOffset template place.offset))
    (levelParts call.enclosing place.active (.ofOffset template place.offset))

/-- Events from before stand before the others. -/
theorem ending_append (call : Call) (offset : Nat) (nodes : List Node)
    (before events : List Event) (result : Except ParseError Parts) :
    ending template call offset nodes (before ++ events) result =
      (before ++ (ending template call offset nodes events result).1,
        (ending template call offset nodes events result).2) := by
  cases result with
  | error => rfl
  | ok parts =>
    obtain ⟨enclosing, opening, start⟩ := call
    obtain ⟨partNodes, source, closing, next⟩ := parts
    cases enclosing <;> cases next <;> simp [ending]

/-- A scan that goes on behind a piece of the level comes to the same. -/
theorem ending_prepend {call : Call} {offset : Nat} {piece rest : Text}
    (splits : template.drop offset = piece ++ rest) (before : call.start ≤ offset)
    (within : offset ≤ template.length) (nodes kept : List Node) (events : List Event)
    (result : Except ParseError Parts) :
    ending template call offset nodes events (result.map (.prepend kept piece)) =
      ending template call (offset + piece.length) (nodes ++ kept) events result := by
  cases result with
  | error => rfl
  | ok parts =>
    simp only [Except.map, ending, Parts.prepend, Text.slice_add_length splits before within,
      List.append_assoc]

/-- The place behind a tag has the offset behind what the visit takes up. -/
theorem next_eq_ofOffset {delimiters : Delimiters} {visit : Visit} {offset : Nat}
    (isNext : visit.IsNext delimiters) (stands : visit.cursor = .ofOffset template offset) :
    visit.next = .ofOffset template (offset + visit.text.length) := by
  rw [visit.next_eq_past, stands]
  exact Cursor.ofOffset_past (drop_eq_text isNext stands)

/-- The place behind the closing tag of a section has the offset behind the section. -/
theorem closed_eq_ofOffset {name : Text} {active : Delimiters} {start : Nat} {parts : Parts}
    {next : Cursor}
    (parsed : levelParts (some name) active (.ofOffset template start) = .ok parts)
    (closed : parts.next = some next) :
    template.drop start = (parts.source ++ parts.closing) ++ next.rest ∧
      parts.source ++ parts.closing ≠ [] ∧
      next = .ofOffset template (start + (parts.source ++ parts.closing).length) := by
  obtain ⟨visits, _, _, inner, closing, passage, isNext, _, rfl⟩ :=
    exists_closing_of_parts_eq_ok parsed closed
  obtain rfl : next = closing.next := Option.some.inj closed.symm
  have whole : Visit.textOf visits ++ closing.placement.keptSource ++ closing.placement.removed =
      Visit.textOf visits ++ closing.text := List.append_assoc _ _ _
  have splits : template.drop start =
      (Visit.textOf visits ++ closing.text) ++ closing.next.rest := by
    rw [List.append_assoc, ← isNext.splits]
    exact passage.splits
  simp only [whole]
  refine ⟨splits, by simp [isNext.text_ne_nil], ?_⟩
  rw [closing.next_eq_past, passage.last_eq_past, Cursor.past_past]
  exact Cursor.ofOffset_past splits

/-- The scan of a section that is closed comes to the text of its level, and to the offset behind
the closing tag. -/
theorem outcome_of_closed {name : Text} {active : Delimiters} {start : Nat} {parts : Parts}
    {next : Cursor}
    (parsed : levelParts (some name) active (.ofOffset template start) = .ok parts)
    (closed : parts.next = some next) :
    outcome template ⟨some name, active, start⟩ ⟨active, start, []⟩ =
      (levelEvents (some name) active (.ofOffset template start) ++
          [.bodyParsed active parts.source parts.nodes],
        .ok (parts.nodes, parts.source, start + (parts.source ++ parts.closing).length)) := by
  obtain ⟨splits, nonempty, -⟩ := closed_eq_ofOffset parsed closed
  have positive := List.length_pos_iff.mpr nonempty
  have lengths := congrArg List.length splits
  rw [List.length_drop, List.length_append] at lengths
  have stop : template.length - next.rest.length =
      start + (parts.source ++ parts.closing).length := by
    omega
  have empty : template.slice start start = [] :=
    List.drop_eq_nil_of_le (List.length_take_le _ _)
  simp only [outcome, ending, parsed, closed, empty, stop, List.nil_append]

/-- The scan of a section that comes to its end comes to an offset behind its start. -/
theorem stop_of_outcome {name : Text} {active : Delimiters} {start : Nat} {events : List Event}
    {body : List Node} {source : Text} {stop : Nat}
    (came : outcome template ⟨some name, active, start⟩ ⟨active, start, []⟩ =
      (events, .ok (body, source, stop))) : start < stop ∧ stop ≤ template.length := by
  cases parsed : levelParts (some name) active (.ofOffset template start) with
  | error error => simp [outcome, parsed, ending] at came
  | ok parts =>
    cases closed : parts.next with
    | none => simp [outcome, parsed, ending, closed] at came
    | some next =>
      obtain ⟨splits, nonempty, -⟩ := closed_eq_ofOffset parsed closed
      have positive := List.length_pos_iff.mpr nonempty
      have inside := Text.add_length_le splits nonempty
      rw [outcome_of_closed parsed closed] at came
      obtain rfl : start + (parts.source ++ parts.closing).length = stop :=
        congrArg (fun answer => answer.2.2) (Except.ok.inj (Prod.mk.inj came).2)
      omega

/-- What a scan comes to at a tag: the same as one round and what follows. -/
theorem outcome_at_tag {visit : Visit} {active : Delimiters} {offset : Nat} {call : Call}
    (isNext : visit.IsNext active) (stands : visit.cursor = .ofOffset template offset)
    (before : call.start ≤ offset) (nodes : List Node) :
    outcome template call ⟨active, offset, nodes⟩ = match visit.request with
      | .emit more => outcome template call
          ⟨active, offset + visit.text.length, nodes ++ visit.placement.kept ++ more⟩
      | .change changed =>
        let (events, answer) := outcome template call
          ⟨changed, offset + visit.text.length, nodes ++ visit.placement.kept⟩
        (.delimitersChanged changed :: events, answer)
      | .opens name inverted =>
        match outcome template ⟨some name, active, offset + visit.text.length⟩
          ⟨active, offset + visit.text.length, []⟩ with
        | (events, .error error) => (events, .error error)
        | (events, .ok (body, source, stop)) =>
          let (further, answer) := outcome template call ⟨active, stop,
            nodes ++ visit.placement.kept ++ [.block name inverted source active (some body)]⟩
          (events ++ further, answer)
      | .closes name => match call.enclosing with
        | none => ([], .error ⟨.unopened name, visit.breaks + 1⟩)
        | some expected =>
          let source := template.slice call.start (offset + visit.placement.keptSource.length)
          if name = expected then
            ([.bodyParsed call.opening source (nodes ++ visit.placement.kept)],
              .ok (nodes ++ visit.placement.kept, source, offset + visit.text.length))
          else ([], .error ⟨.crossed name expected, visit.breaks + 1⟩)
      | .refused cause => ([], .error ⟨cause, visit.breaks + 1⟩) := by
  have splits := drop_eq_text isNext stands
  have inside := Text.add_length_le splits isNext.text_ne_nil
  have within : offset ≤ template.length := by omega
  have atNext := next_eq_ofOffset isNext stands
  rw [outcome, ← stands, levelEvents, levelParts, events_at_tag isNext, parts_at_tag isNext]
  simp only [parts_eq_levelParts, events_eq_levelEvents, atNext]
  cases visit.request with
  | emit more =>
    simp only [ending_prepend splits before within, outcome, List.append_assoc]
  | change changed =>
    simp only [ending_prepend splits before within, outcome]
    exact ending_append call _ _ [.delimitersChanged changed] _ _
  | opens name inverted =>
    dsimp only
    cases parsed : levelParts (some name) active
        (.ofOffset template (offset + visit.text.length)) with
    | error error => simp only [outcome, parsed, ending, Except.bind, List.append_nil]
    | ok parts =>
      obtain ⟨body, source, closing, closed⟩ := parts
      cases closed with
      | none =>
        simp only [outcome, parsed, ending, Cursor.ofOffset_breaks, Except.bind, List.append_nil]
      | some next =>
        obtain ⟨bodySplits, -, atStop⟩ := closed_eq_ofOffset parsed rfl
        have whole : template.drop offset = (visit.text ++ (source ++ closing)) ++ next.rest := by
          have fromNext := Text.drop_add_length splits
          rw [splits, List.append_assoc, ← bodySplits, fromNext]
        have further : offset + (visit.text ++ (source ++ closing)).length =
            offset + visit.text.length + (source ++ closing).length := by
          rw [List.length_append, Nat.add_assoc]
        rw [outcome_of_closed parsed rfl]
        dsimp only [Except.bind]
        rw [ending_prepend whole before within, List.append_cons (levelEvents _ _ _),
          ending_append, further, List.append_assoc nodes, outcome, ← atStop]
  | closes name =>
    cases isIn : call.enclosing with
    | none => rfl
    | some expected =>
      have kept : template.drop offset = visit.placement.keptSource ++
          (visit.placement.removed ++ visit.next.rest) := by
        rw [splits, Visit.text, List.append_assoc]
      have stop : template.length - (template.drop (offset + visit.text.length)).length =
          offset + visit.text.length := by
        rw [List.length_drop]
        omega
      dsimp only
      split
      · simp only [ending, isIn, List.nil_append, Cursor.ofOffset_rest, stop,
          Text.slice_add_length kept before within]
      · rfl
  | refused cause => rfl

/-- What is wrong with a tag is reported for the line that the tag is on. -/
theorem comes_refuse {visit : Visit} {active : Delimiters} {offset : Nat}
    (isNext : visit.IsNext active) (stands : visit.cursor = .ofOffset template offset)
    (cause : ParseError.Cause) :
    Comes template
      (refuse template cause
        (offset + visit.occurrence.content.length + visit.occurrence.blank.length) : Scan α)
      [] (.error (.malformed ⟨cause, visit.breaks + 1⟩)) := by
  have parts := drop_eq_occurrence isNext stands
  have lines : Text.lineBreaks (template.take (offset + visit.occurrence.content.length +
      visit.occurrence.blank.length)) = visit.breaks := by
    rw [Text.take_add_length (Text.drop_add_length parts), Text.take_add_length parts,
      Text.lineBreaks_append, Text.lineBreaks_append,
      Text.lineBreaks_eq_zero (Tag.isBlank_of_find? isNext), Visit.breaks, stands]
    simp [Cursor.ofOffset, Cursor.past, Cursor.start]
  rw [refuse, lines]
  exact comes_throw _

/-- With more rounds than there are code points left, a scan comes to what parsing the level comes
to, and all of its steps are in bounds. -/
theorem comes_run {rounds : Nat} {call : Call} {place : Place}
    (enough : template.length - place.offset < rounds) (before : call.start ≤ place.offset) :
    Comes template (run template rounds call place) (outcome template call place).1
      ((outcome template call place).2.mapError .malformed) := by
  induction rounds generalizing call place with
  | zero => omega
  | succ rounds inductionHypothesis =>
    obtain ⟨active, offset, nodes⟩ := place
    dsimp only at enough before
    cases found : Tag.find? active (template.drop offset) with
    | none =>
      have absent : Tag.find? active (Cursor.ofOffset template offset).rest = none := found
      simp only [run, found]
      rw [outcome, levelEvents, levelParts, events_of_absent absent, parts_of_absent absent]
      cases isIn : call.enclosing with
      | none =>
        simp only [ending, isIn]
        exact comes_pure _
      | some name =>
        simp only [ending, isIn]
        exact comes_throw _
    | some occurrence =>
      obtain ⟨visit, stands, rfl, isNext⟩ : ∃ visit : Visit,
          visit.cursor = .ofOffset template offset ∧ visit.occurrence = occurrence ∧
            visit.IsNext active := ⟨⟨_, occurrence⟩, rfl, rfl, found⟩
      have positive := List.length_pos_iff.mpr isNext.text_ne_nil
      have inside := Text.add_length_le (drop_eq_text isNext stands) isNext.text_ne_nil
      simp only [run, found]
      rw [outcome_at_tag isNext stands before nodes]
      refine (comes_surroundings isNext stands).andThen ?_
      dsimp only
      rw [show visit.occurrence.tag.request visit.placement.indent = visit.request from rfl]
      cases visit.request with
      | emit more =>
        exact inductionHypothesis (by dsimp only; omega) (by dsimp only; omega)
      | change changed =>
        exact (comes_report _).bind
          (inductionHypothesis (by dsimp only; omega) (by dsimp only; omega))
      | opens name inverted =>
        have entered : Step.IsInBounds template (.entered offset (offset + visit.text.length)) :=
          ⟨by omega, inside⟩
        have within := @inductionHypothesis ⟨some name, active, offset + visit.text.length⟩
          ⟨active, offset + visit.text.length, []⟩ (by dsimp only; omega) (Nat.le_refl _)
        dsimp only
        cases came : outcome template ⟨some name, active, offset + visit.text.length⟩
            ⟨active, offset + visit.text.length, []⟩ with
        | mk events answer =>
          rw [came] at within
          cases answer with
          | error error => exact (comes_note entered).andThen within.bind_error
          | ok answer =>
            obtain ⟨body, source, stop⟩ := answer
            obtain ⟨further, inTemplate⟩ := stop_of_outcome came
            have moved : Step.IsInBounds template (.moved offset stop) :=
              ⟨by omega, inTemplate⟩
            exact (comes_note entered).andThen (within.bind ((comes_note moved).andThen
              (inductionHypothesis (by dsimp only; omega) (by dsimp only; omega))))
      | closes name =>
        cases call.enclosing with
        | none => exact comes_refuse isNext stands _
        | some expected =>
          dsimp only
          split
          · have pieces : visit.placement.keptSource.length ≤ visit.text.length := by
              rw [Visit.text, List.length_append]
              omega
            have sliced : Step.IsInBounds template (.sliced call.start
                ((offset + visit.placement.keptSource.length : Nat) : Int)
                (offset + visit.text.length)) :=
              ⟨by omega, by omega⟩
            have left : Step.IsInBounds template (.left call.start (offset + visit.text.length)) :=
              ⟨by omega, inside⟩
            rw [Int.toNat_natCast]
            exact (comes_note sliced).andThen ((comes_report _).bind
              ((comes_note left).andThen (comes_pure _)))
          · exact comes_refuse isNext stands _
      | refused cause => exact comes_refuse isNext stands cause

/-- A place at the start of the template is at its first offset. -/
theorem ofOffset_zero (template : Text) : Cursor.ofOffset template 0 = .start template :=
  Cursor.past_nil (.start template)

/-- A scan of the whole template comes to what parsing it comes to. -/
theorem outcome_start (template : Text) (delimiters : Delimiters) :
    outcome template ⟨none, delimiters, 0⟩ ⟨delimiters, 0, []⟩ =
      ((parse delimiters template).1,
        (parse delimiters template).2.map fun nodes => (nodes, template, template.length)) := by
  rw [outcome, ofOffset_zero, parse_eq_map_parts, parts_eq_levelParts]
  cases parsed : levelParts none delimiters (.start template) <;> rfl

end Stencil.Template.Scan

namespace Stencil.Template

/-- A scan from any offset, with any delimiters, ends: with more rounds than there are code points
left it is not stopped for want of rounds, nor for a code point that is not there. It comes to nodes
with the text and the offset that it has come to, or to the report of a malformed template, and that
is what parsing comes to. All of its steps go forward and stay in the template, and if it is the
scan of a section, so does the scan as a whole. -/
theorem scan_inBounds {template : Text} {delimiters : Delimiters} {enclosing : Option Text}
    {start rounds : Nat} (enough : template.length - start < rounds) :
    ∃ steps events result,
      Scan.of template rounds enclosing delimiters start ⟨[], []⟩ =
          (Except.mapError .malformed result, ⟨steps, events⟩) ∧
        (∀ step ∈ steps, step.IsInBounds template) ∧
        (∀ name nodes source stop, enclosing = some name → result = .ok (nodes, source, stop) →
          start < stop ∧ stop ≤ template.length) ∧
        (events, result) =
          Scan.outcome template ⟨enclosing, delimiters, start⟩ ⟨delimiters, start, []⟩ ∧
        (enclosing = none → start = 0 →
          (events, result.map Prod.fst) = parse delimiters template) := by
  obtain ⟨steps, inBounds, ran⟩ :=
    @Scan.comes_run template rounds ⟨enclosing, delimiters, start⟩ ⟨delimiters, start, []⟩ enough
      (Nat.le_refl _) ⟨[], []⟩
  refine ⟨steps, _, _, ran, inBounds, ?_, rfl, ?_⟩
  · rintro name nodes source stop rfl came
    exact Scan.stop_of_outcome (Prod.ext rfl came)
  · rintro rfl rfl
    rw [Scan.outcome_start]
    cases parsed : parse delimiters template with
    | mk events result => cases result <;> rfl

/-- A section with a tag in it, where nothing stands before a tag and a space behind it. -/
def bareTags : Text := .of "#a b /a "

/-- The delimiters of these tags. -/
def bareDelimiters : Delimiters := ⟨[], .of " "⟩

/-- Nine rounds are enough for the eight code points. -/
theorem scan_inBounds_bareTags : bareTags.length - 0 < 9 ∧
    ∃ steps events result,
      Scan.of bareTags 9 none bareDelimiters 0 ⟨[], []⟩ =
          (Except.mapError .malformed result, ⟨steps, events⟩) ∧
        (∀ step ∈ steps, step.IsInBounds bareTags) ∧
        (events, result.map Prod.fst) = parse bareDelimiters bareTags := by
  have enough : bareTags.length - 0 < 9 := by decide
  obtain ⟨steps, events, result, ran, inBounds, -, -, same⟩ :=
    @scan_inBounds bareTags bareDelimiters none 0 9 enough
  exact ⟨enough, steps, events, result, ran, inBounds, same rfl rfl⟩

/-- The section begins behind its opening tag. It is cut out up to its closing tag, behind which the
scan goes on. -/
example : (Scan.of bareTags 9 none bareDelimiters 0 ⟨[], []⟩).2.steps =
    [.found 0 0 3, .moved 0 3, .entered 0 3,
      .found 3 3 5, .looked 2, .moved 3 5,
      .found 5 5 8, .looked 4, .moved 5 8, .sliced 3 5 8, .left 3 8,
      .moved 0 8] := by
  cbv

end Stencil.Template
