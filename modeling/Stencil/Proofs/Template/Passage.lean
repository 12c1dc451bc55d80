import Stencil.Proofs.Tag.Search
import Stencil.Proofs.Template.Visit

/-!
# Passages through a template

A `Passage` is a part of a successful parse: it leads from one place of a level to a later place of
the same level, over whole sections. It keeps the tags that were visited in their order, and the
tags of every section as a pair, so that laws about a parse can be proved along its passage.

A level that can be parsed is a passage and what ends it: the template, or a closing tag
(`parts_eq_ok_iff`). One that cannot be parsed is a passage up to what stops it, in the level itself
or inside one of its sections (`parts_eq_error_iff`).
-/

namespace Stencil.Template

/-! ## Passages -/

/-- A part of a successful parse, from one place of a level to a later one: the tags visited, the
tags of its sections as pairs, and the nodes. -/
inductive Passage : Delimiters → Cursor → List Visit → List (Visit × Visit) → List Node →
    Delimiters → Cursor → Prop where
  | stay {delimiters cursor} : Passage delimiters cursor [] [] [] delimiters cursor
  | emit {delimiters visit nodes visits pairs more active last}
      (isNext : visit.IsNext delimiters) (asked : visit.request = .emit nodes)
      (further : Passage delimiters visit.next visits pairs more active last) :
      Passage delimiters visit.cursor (visit :: visits) pairs
        (visit.placement.kept ++ nodes ++ more) active last
  | change {delimiters visit changed visits pairs more active last}
      (isNext : visit.IsNext delimiters) (asked : visit.request = .change changed)
      (further : Passage changed visit.next visits pairs more active last) :
      Passage delimiters visit.cursor (visit :: visits) pairs (visit.placement.kept ++ more)
        active last
  | block {delimiters opening name inverted inside insidePairs body inner closing visits pairs more
        active last}
      (isNext : opening.IsNext delimiters) (asked : opening.request = .opens name inverted)
      (bodyPassage : Passage delimiters opening.next inside insidePairs body inner closing.cursor)
      (closingIsNext : closing.IsNext inner) (closingAsked : closing.request = .closes name)
      (further : Passage delimiters closing.next visits pairs more active last) :
      Passage delimiters opening.cursor (opening :: (inside ++ closing :: visits))
        (insidePairs ++ (opening, closing) :: pairs)
        (opening.placement.kept ++
          .block name inverted (Visit.textOf inside ++ closing.placement.keptSource) delimiters
            (some (body ++ closing.placement.kept)) :: more)
        active last

/-- What ends a level: the end of the template, or the closing tag of its section. -/
inductive Ending : Option Text → Delimiters → Cursor → Parts → Prop where
  | template {enclosing active last} (absent : Tag.find? active last.rest = none) :
      Ending enclosing active last ⟨Node.literals last.rest, last.rest, [], none⟩
  | closing {name active} {visit : Visit} (isNext : visit.IsNext active)
      (asked : visit.request = .closes name) :
      Ending (some name) active visit.cursor
        ⟨visit.placement.kept, visit.placement.keptSource, visit.placement.removed,
          some visit.next⟩

section Passage

variable {delimiters active : Delimiters} {cursor last : Cursor} {visits : List Visit}
  {pairs : List (Visit × Visit)} {nodes : List Node}

/-- A passage takes up the text between its two places. -/
theorem Passage.splits (passage : Passage delimiters cursor visits pairs nodes active last) :
    cursor.rest = Visit.textOf visits ++ last.rest := by
  induction passage with
  | stay => rfl
  | emit isNext asked further inductionHypothesis =>
    rw [isNext.splits, inductionHypothesis, Visit.textOf_cons, List.append_assoc]
  | change isNext asked further inductionHypothesis =>
    rw [isNext.splits, inductionHypothesis, Visit.textOf_cons, List.append_assoc]
  | block isNext asked bodyPassage closingIsNext closingAsked further inside beyond =>
    rw [isNext.splits, inside, closingIsNext.splits, beyond]
    simp only [Visit.textOf_cons, Visit.textOf_append, List.append_assoc]

/-- A parse goes through a passage and on from where it leads. -/
theorem Passage.parts_eq (passage : Passage delimiters cursor visits pairs nodes active last)
    (enclosing : Option Text) :
    (parseLevel enclosing delimiters cursor).parts =
      (parseLevel enclosing active last).parts.map (.prepend nodes (Visit.textOf visits)) := by
  induction passage generalizing enclosing with
  | stay =>
    cases (parseLevel enclosing _ _).parts <;> rfl
  | emit isNext asked further inductionHypothesis =>
    rw [parts_at_tag isNext, asked]
    dsimp only
    rw [inductionHypothesis]
    cases (parseLevel enclosing _ _).parts <;> simp [Except.map, Parts.prepend]
  | change isNext asked further inductionHypothesis =>
    rw [parts_at_tag isNext, asked]
    dsimp only
    rw [inductionHypothesis]
    cases (parseLevel enclosing _ _).parts <;> simp [Except.map, Parts.prepend]
  | @block _ opening name _ _ _ _ _ closing _ _ _ _ _ isNext asked bodyPassage closingIsNext
      closingAsked further inside beyond =>
    rw [parts_at_tag isNext, asked]
    dsimp only
    rw [inside (some name), parts_at_tag closingIsNext, closingAsked]
    simp only [if_true, Except.map, Except.bind, Parts.prepend]
    rw [beyond enclosing]
    cases (parseLevel enclosing _ _).parts <;>
      simp [Except.map, Parts.prepend, Visit.text]

/-- What ends a level is what parsing finds there. -/
theorem Ending.parts_eq {enclosing : Option Text} {parts : Parts}
    (ending : Ending enclosing active last parts) :
    (parseLevel enclosing active last).parts = .ok parts := by
  cases ending with
  | template absent => exact parts_of_absent absent
  | closing isNext asked =>
    rw [parts_at_tag isNext, asked]
    exact if_pos rfl

/-- What a successful result was made from. -/
theorem exists_of_map_eq_ok {α β ε : Type} {change : α → β} {result : Except ε α} {made : β}
    (mapped : result.map change = .ok made) :
    ∃ value, result = .ok value ∧ change value = made := by
  cases result with
  | error => simp [Except.map] at mapped
  | ok value => exact ⟨value, rfl, Except.ok.inj mapped⟩

/-- Changing what was made does not mend a failure. -/
theorem eq_error_of_map_eq_error {α β ε : Type} {change : α → β} {result : Except ε α} {error : ε}
    (failed : result.map change = .error error) : result = .error error := by
  cases result with
  | error other => exact congrArg Except.error (Except.error.inj failed)
  | ok value => simp [Except.map] at failed

/-- A level that can be parsed is a passage and what ends it. -/
theorem exists_passage_of_parts_eq_ok {enclosing : Option Text} {parts : Parts}
    (parsed : (parseLevel enclosing delimiters cursor).parts = .ok parts) :
    ∃ visits pairs nodes active last ending,
      Passage delimiters cursor visits pairs nodes active last ∧
        Ending enclosing active last ending ∧
        parts = ending.prepend nodes (Visit.textOf visits) := by
  fun_induction parseLevel enclosing delimiters cursor generalizing parts with
  | case1 enclosing delimiters cursor absent =>
    obtain rfl := Except.ok.inj parsed
    exact ⟨[], [], [], _, _, _, .stay, .template absent, rfl⟩
  | case2 enclosing delimiters cursor occurrence found placement shorter emitted asked =>
    rename_i inductionHypothesis
    rw [Outcome.parts_after] at parsed
    obtain ⟨rest, restParsed, rfl⟩ := exists_of_map_eq_ok parsed
    obtain ⟨visits, pairs, nodes, active, last, ending, passage, ends, rfl⟩ :=
      inductionHypothesis restParsed
    have isNext : Visit.IsNext ⟨cursor, occurrence⟩ delimiters := found
    refine ⟨_, pairs, _, active, last, ending, .emit isNext asked passage, ends, ?_⟩
    simp [Parts.prepend, Visit.text, Visit.placement, placement]
  | case3 enclosing delimiters cursor occurrence found placement shorter changed asked =>
    rename_i inductionHypothesis
    rw [Outcome.parts_after] at parsed
    obtain ⟨rest, restParsed, rfl⟩ := exists_of_map_eq_ok parsed
    obtain ⟨visits, pairs, nodes, active, last, ending, passage, ends, rfl⟩ :=
      inductionHypothesis restParsed
    have isNext : Visit.IsNext ⟨cursor, occurrence⟩ delimiters := found
    refine ⟨_, pairs, _, active, last, ending, .change isNext asked passage, ends, ?_⟩
    simp [Parts.prepend, Visit.text, Visit.placement, placement]
  | case6 enclosing delimiters cursor occurrence found placement shorter name inverted
      asked events body bodyParsed next ended further inside =>
    rename_i beyond
    rw [Outcome.parts_after] at parsed
    obtain ⟨rest, restParsed, rfl⟩ := exists_of_map_eq_ok parsed
    obtain ⟨visits, pairs, nodes, active, last, ending, passage, ends, rfl⟩ := beyond restParsed
    obtain ⟨bodyVisits, bodyPairs, bodyNodes, inner, place, bodyEnding, bodyPassage, bodyEnds,
      bodyParts⟩ := inside (by rw [bodyParsed]; rfl)
    cases bodyEnds with
    | template absent => simp [ended, Level.parts, Parts.prepend] at bodyParts
    | @closing _ _ closing closingIsNext closingAsked =>
      simp only [Level.parts, Parts.prepend, ended, Parts.mk.injEq, Option.some.injEq] at bodyParts
      obtain ⟨bodyNodesEq, sourceEq, closingEq, rfl⟩ := bodyParts
      have isNext : Visit.IsNext ⟨cursor, occurrence⟩ delimiters := found
      refine ⟨_, _, _, active, last, ending,
        .block isNext asked bodyPassage closingIsNext closingAsked passage, ends, ?_⟩
      simp [Parts.prepend, bodyNodesEq, sourceEq, closingEq, Visit.text, Visit.placement, placement]
  | case8 delimiters cursor occurrence found placement shorter name =>
    rename_i asked
    obtain rfl := Except.ok.inj parsed
    have isNext : Visit.IsNext ⟨cursor, occurrence⟩ delimiters := found
    exact ⟨[], [], [], _, _, _, .stay, .closing isNext asked, rfl⟩
  | _ => simp [Outcome.failure, Outcome.parts, Except.map] at parsed

/-- A level can be parsed exactly if there is a passage through it to what ends it. -/
theorem parts_eq_ok_iff {enclosing : Option Text} {parts : Parts} :
    (parseLevel enclosing delimiters cursor).parts = .ok parts ↔
      ∃ visits pairs nodes active last ending,
        Passage delimiters cursor visits pairs nodes active last ∧
          Ending enclosing active last ending ∧
          parts = ending.prepend nodes (Visit.textOf visits) := by
  constructor
  · exact exists_passage_of_parts_eq_ok
  · rintro ⟨visits, pairs, nodes, active, last, ending, passage, ends, rfl⟩
    rw [passage.parts_eq enclosing, ends.parts_eq]
    rfl

/-- The body of a section that is closed is a passage up to the closing tag. -/
theorem exists_closing_of_parts_eq_ok {name : Text} {parts : Parts} {next : Cursor}
    (parsed : (parseLevel (some name) delimiters cursor).parts = .ok parts)
    (closed : parts.next = some next) :
    ∃ visits pairs nodes active, ∃ closing : Visit,
      Passage delimiters cursor visits pairs nodes active closing.cursor ∧
        closing.IsNext active ∧ closing.request = .closes name ∧
        parts = ⟨nodes ++ closing.placement.kept,
          Visit.textOf visits ++ closing.placement.keptSource, closing.placement.removed,
          some closing.next⟩ := by
  obtain ⟨visits, pairs, nodes, active, last, ending, passage, ends, rfl⟩ :=
    exists_passage_of_parts_eq_ok parsed
  cases ends with
  | template => simp [Parts.prepend] at closed
  | closing isNext asked => exact ⟨visits, pairs, nodes, active, _, passage, isNext, asked, rfl⟩

/-- Passages can be joined. -/
theorem Passage.trans {further : Delimiters} {place : Cursor} {later : List Visit}
    {laterPairs : List (Visit × Visit)} {more : List Node}
    (passage : Passage delimiters cursor visits pairs nodes active last)
    (onward : Passage active last later laterPairs more further place) :
    Passage delimiters cursor (visits ++ later) (pairs ++ laterPairs) (nodes ++ more) further
      place := by
  induction passage with
  | stay => exact onward
  | emit isNext asked _ inductionHypothesis =>
    simpa using Passage.emit isNext asked (inductionHypothesis onward)
  | change isNext asked _ inductionHypothesis =>
    simpa using Passage.change isNext asked (inductionHypothesis onward)
  | block isNext asked bodyPassage closingIsNext closingAsked _ _ beyond =>
    simpa using Passage.block isNext asked bodyPassage closingIsNext closingAsked (beyond onward)

/-- A change of delimiters sets solid ones. -/
theorem areSolid_of_request {visit : Visit} {changed : Delimiters}
    (asked : visit.request = .change changed) : changed.AreSolid := by
  unfold Visit.request Tag.request at asked
  split at asked
  · simp at asked
  · repeat' split at asked
    all_goals try simp at asked
    rename_i opening closing words
    obtain rfl := asked
    have isWord : ∀ word ∈ [opening, closing], word.IsSolid := fun word member =>
      Text.isSolid_of_mem_words (words ▸ member)
    exact ⟨isWord opening (by simp), isWord closing (by simp)⟩

/-- Solid delimiters stay solid. -/
theorem Passage.areSolid (passage : Passage delimiters cursor visits pairs nodes active last)
    (solid : delimiters.AreSolid) : active.AreSolid := by
  induction passage with
  | stay => exact solid
  | emit _ _ _ inductionHypothesis => exact inductionHypothesis solid
  | change _ asked _ inductionHypothesis => exact inductionHypothesis (areSolid_of_request asked)
  | block _ _ _ _ _ _ _ beyond => exact beyond solid

end Passage

/-! ## Halts -/

/-- What is wrong with a request in the innermost open section, if anything is. -/
def Visit.fault? (enclosing : Option Text) (visit : Visit) : Option ParseError.Cause :=
  match visit.request, enclosing with
  | .closes name, none => some (.unopened name)
  | .closes name, some expected => if name = expected then none else some (.crossed name expected)
  | .refused cause, _ => some cause
  | _, _ => none

/-- What stops the parse of a level, at a tag or at the end of the template. -/
inductive Halt : Option Text → Delimiters → Cursor → ParseError → Prop where
  | tag {enclosing delimiters cursor visits pairs nodes active cause} {visit : Visit}
      (passage : Passage delimiters cursor visits pairs nodes active visit.cursor)
      (isNext : visit.IsNext active) (faulty : visit.fault? enclosing = some cause) :
      Halt enclosing delimiters cursor ⟨cause, visit.breaks + 1⟩
  | ended {enclosing delimiters cursor visits pairs nodes active name inverted inside insidePairs
        body inner last} {opening : Visit}
      (passage : Passage delimiters cursor visits pairs nodes active opening.cursor)
      (isNext : opening.IsNext active) (asked : opening.request = .opens name inverted)
      (bodyPassage : Passage active opening.next inside insidePairs body inner last)
      (absent : Tag.find? inner last.rest = none) :
      Halt enclosing delimiters cursor ⟨.unclosed name, opening.next.breaks + 1⟩
  | inside {enclosing delimiters cursor visits pairs nodes active name inverted error}
      {opening : Visit}
      (passage : Passage delimiters cursor visits pairs nodes active opening.cursor)
      (isNext : opening.IsNext active) (asked : opening.request = .opens name inverted)
      (halt : Halt (some name) active opening.next error) :
      Halt enclosing delimiters cursor error

section Halt

variable {enclosing : Option Text} {delimiters active : Delimiters} {cursor last : Cursor}
  {visits : List Visit} {pairs : List (Visit × Visit)} {nodes : List Node} {error : ParseError}

/-- What stops a parse stops it from every earlier place of the level as well. -/
theorem Halt.before (passage : Passage delimiters cursor visits pairs nodes active last)
    (halt : Halt enclosing active last error) : Halt enclosing delimiters cursor error := by
  cases halt with
  | tag onward isNext faulty => exact .tag (passage.trans onward) isNext faulty
  | ended onward isNext asked bodyPassage absent =>
    exact .ended (passage.trans onward) isNext asked bodyPassage absent
  | inside onward isNext asked halt => exact .inside (passage.trans onward) isNext asked halt

/-- A parse stops with the report of what stops it. -/
theorem Halt.parts_eq (halt : Halt enclosing delimiters cursor error) :
    (parseLevel enclosing delimiters cursor).parts = .error error := by
  induction halt with
  | @tag enclosing _ _ _ _ _ _ visit _ passage isNext faulty =>
    rw [passage.parts_eq, parts_at_tag isNext]
    unfold Visit.fault? at faulty
    split at faulty
    · rename_i asked
      obtain rfl := Option.some.inj faulty
      simp [asked, Except.map]
    · rename_i asked
      split at faulty
      · simp at faulty
      · rename_i different
        obtain rfl := Option.some.inj faulty
        simp [asked, different, Except.map]
    · rename_i asked
      obtain rfl := Option.some.inj faulty
      simp [asked, Except.map]
    · simp at faulty
  | ended passage isNext asked bodyPassage absent =>
    rw [passage.parts_eq, parts_at_tag isNext, asked]
    dsimp only
    rw [bodyPassage.parts_eq, parts_of_absent absent]
    rfl
  | inside passage isNext asked _ inductionHypothesis =>
    rw [passage.parts_eq, parts_at_tag isNext, asked]
    dsimp only
    rw [inductionHypothesis]
    rfl

/-- A parse that fails was stopped by something. -/
theorem halt_of_parts_eq_error
    (failed : (parseLevel enclosing delimiters cursor).parts = .error error) :
    Halt enclosing delimiters cursor error := by
  fun_induction parseLevel enclosing delimiters cursor with
  | case1 => simp [Outcome.parts, Except.map] at failed
  | case2 enclosing delimiters cursor occurrence found placement shorter emitted asked =>
    rename_i inductionHypothesis
    have isNext : Visit.IsNext ⟨cursor, occurrence⟩ delimiters := found
    rw [Outcome.parts_after] at failed
    exact (inductionHypothesis (eq_error_of_map_eq_error failed)).before (.emit isNext asked .stay)
  | case3 enclosing delimiters cursor occurrence found placement shorter changed asked =>
    rename_i inductionHypothesis
    have isNext : Visit.IsNext ⟨cursor, occurrence⟩ delimiters := found
    rw [Outcome.parts_after] at failed
    have halt := inductionHypothesis (eq_error_of_map_eq_error failed)
    exact halt.before (.change isNext asked .stay)
  | case4 enclosing delimiters cursor occurrence found placement shorter name inverted asked events
      fault =>
    rename_i bodyFailed inductionHypothesis
    have isNext : Visit.IsNext ⟨cursor, occurrence⟩ delimiters := found
    exact .inside .stay isNext asked (inductionHypothesis (bodyFailed ▸ failed))
  | case5 enclosing delimiters cursor occurrence found placement shorter name inverted asked events
      body bodyParsed =>
    rename_i ended inductionHypothesis
    have isNext : Visit.IsNext ⟨cursor, occurrence⟩ delimiters := found
    have bodyParts : (parseLevel (some name) delimiters placement.next).parts = .ok body.parts := by
      rw [bodyParsed, Outcome.parts_ok]
    obtain ⟨inside, insidePairs, nodes, inner, last, ending, passage, ends, same⟩ :=
      exists_passage_of_parts_eq_ok bodyParts
    obtain rfl := Except.error.inj failed
    cases ends with
    | template absent => exact .ended .stay isNext asked passage absent
    | closing => simp [Level.parts, Parts.prepend, ended] at same
  | case6 enclosing delimiters cursor occurrence found placement shorter name inverted asked events
      body bodyParsed next ended further inside =>
    rename_i beyond
    have isNext : Visit.IsNext ⟨cursor, occurrence⟩ delimiters := found
    have bodyParts : (parseLevel (some name) delimiters placement.next).parts = .ok body.parts := by
      rw [bodyParsed, Outcome.parts_ok]
    obtain ⟨visits, pairs, nodes, inner, closing, passage, closingIsNext, closingAsked, same⟩ :=
      exists_closing_of_parts_eq_ok bodyParts ended
    obtain rfl : next = closing.next := by simpa [Level.parts, ended] using congrArg Parts.next same
    rw [Outcome.parts_after] at failed
    have halt := beyond (eq_error_of_map_eq_error failed)
    exact halt.before (.block isNext asked passage closingIsNext closingAsked .stay)
  | case7 delimiters cursor occurrence found placement breaks shorter =>
    rename_i name asked
    have isNext : Visit.IsNext ⟨cursor, occurrence⟩ delimiters := found
    obtain rfl := Except.error.inj failed
    have asks : Visit.request ⟨cursor, occurrence⟩ = .closes name := asked
    exact .tag .stay isNext (by simp [Visit.fault?, asks])
  | case8 => simp [Outcome.parts, Except.map] at failed
  | case9 delimiters cursor occurrence found placement breaks shorter name =>
    rename_i asked expected different
    have isNext : Visit.IsNext ⟨cursor, occurrence⟩ delimiters := found
    obtain rfl := Except.error.inj failed
    have asks : Visit.request ⟨cursor, occurrence⟩ = .closes name := asked
    exact .tag .stay isNext (by simp [Visit.fault?, asks, different])
  | case10 enclosing delimiters cursor occurrence found placement breaks shorter =>
    rename_i cause asked
    have isNext : Visit.IsNext ⟨cursor, occurrence⟩ delimiters := found
    obtain rfl := Except.error.inj failed
    have asks : Visit.request ⟨cursor, occurrence⟩ = .refused cause := asked
    exact .tag .stay isNext (by simp [Visit.fault?, asks])

/-- A level cannot be parsed exactly if something stops its parse. -/
theorem parts_eq_error_iff :
    (parseLevel enclosing delimiters cursor).parts = .error error ↔
      Halt enclosing delimiters cursor error :=
  ⟨halt_of_parts_eq_error, Halt.parts_eq⟩

end Halt

/-! ## Whole templates -/

section Parse

variable {delimiters : Delimiters} {template : Text}

/-- Parsing a template is parsing a level without an enclosing section. -/
theorem parse_eq_map_parts :
    (parse delimiters template).2 =
      (parseLevel none delimiters (.start template)).parts.map Parts.nodes := by
  change (parseLevel none delimiters (.start template)).2.map Level.nodes =
    ((parseLevel none delimiters (.start template)).2.map Level.parts).map Parts.nodes
  cases (parseLevel none delimiters (.start template)).2 <;> rfl

/-- A template can be parsed exactly if there is a passage through it to the last tag. -/
theorem parse_eq_ok_iff {nodes : List Node} :
    (parse delimiters template).2 = .ok nodes ↔
      ∃ visits pairs inner active last,
        Passage delimiters (.start template) visits pairs inner active last ∧
          Tag.find? active last.rest = none ∧ nodes = inner ++ Node.literals last.rest := by
  rw [parse_eq_map_parts]
  constructor
  · intro parsed
    obtain ⟨parts, partsParsed, rfl⟩ := exists_of_map_eq_ok parsed
    obtain ⟨visits, pairs, inner, active, last, ending, passage, ends, rfl⟩ :=
      parts_eq_ok_iff.mp partsParsed
    cases ends with
    | template absent => exact ⟨visits, pairs, inner, active, last, passage, absent, rfl⟩
  · rintro ⟨visits, pairs, inner, active, last, passage, absent, rfl⟩
    rw [passage.parts_eq, parts_of_absent absent]
    rfl

/-- A template cannot be parsed exactly if something stops its parse. -/
theorem parse_eq_error_iff {error : ParseError} :
    (parse delimiters template).2 = .error error ↔
      Halt none delimiters (.start template) error := by
  rw [parse_eq_map_parts, ← parts_eq_error_iff]
  constructor
  · exact eq_error_of_map_eq_error
  · intro failed
    rw [failed]
    rfl

end Parse

end Stencil.Template
