import Stencil.Proofs.Cache.Contents
import Stencil.Proofs.Template.Outline
import Stencil.Proofs.Template.Sighting

/-!
# Parsing with an explicit stack

The tags of a template can be read from left to right by a machine that keeps the open sections on
a stack. An opening tag puts the active delimiters away with the name of the section, a
set-delimiters tag replaces them, and a closing tag brings back those that its section began with.
The machine gathers outlines. It knows nothing of what disappears with a tag, and a line break that
parsing takes away with a tag is still in front of the machine afterwards.

`Machine.Follows` relates the machine to a place of a parse. It holds along every passage, where the
machine goes through the same tags and leaves its stack as it was (`Passage.onward`), and it holds
where a parse stops (`Halt.run_eq`). So parsing, with whatever recursion, comes to what the machine
comes to.
-/

namespace Stencil

/-- There are no line breaks among blanks. -/
theorem Text.lineBreaks_eq_zero {blank : Text}
    (blanks : ∀ point ∈ blank, Text.isBlank point = true) : Text.lineBreaks blank = 0 := by
  apply List.count_eq_zero.mpr
  intro member
  exact absurd (blanks _ member) (by decide)

namespace Template

/-! ## The machine -/

/-- The line on which the text behind a tag goes on, counted from 1. -/
def Sighting.lineBehind (sighting : Sighting) : Nat :=
  Text.lineBreaks (sighting.before ++ sighting.source ++ sighting.lineBreak) + 1

/-- A section that is open. -/
structure Opening where
  /-- The tag that opened it. -/
  sighting : Sighting
  name : Text
  inverted : Bool
  /-- The delimiters that were active then. -/
  delimiters : Delimiters
  /-- What was gathered before it. -/
  gathered : List Node

/-- A machine that reads the tags of a template. -/
structure Machine where
  /-- The open sections, the innermost first. -/
  stack : List Opening
  active : Delimiters
  /-- The outline of the innermost open section so far. -/
  gathered : List Node
  /-- The tags so far. -/
  seen : List Sighting
  /-- The tags of the sections so far, in the order in which these were closed. -/
  sections : List (Sighting × Sighting)
  before : Text
  rest : Text

namespace Machine

/-- A machine in front of a template. -/
def start (delimiters : Delimiters) (template : Text) : Machine :=
  ⟨[], delimiters, [], [], [], [], template⟩

/-- A tag that was found in the rest of the template. -/
def sight (machine : Machine) (occurrence : Tag.Occurrence) : Sighting where
  before := machine.before ++ occurrence.content ++ occurrence.blank
  source := occurrence.source
  tag := occurrence.tag
  rest := occurrence.rest

/-- The machine behind a tag. -/
def past (machine : Machine) (sighting : Sighting) : Machine :=
  { machine with
    seen := machine.seen ++ [sighting]
    before := sighting.before ++ sighting.source
    rest := sighting.rest }

/-- One tag is read. -/
def step (machine : Machine) (sighting : Sighting) : Except ParseError Machine :=
  let behind := machine.past sighting
  match sighting.tag.request [] with
  | .emit nodes => .ok { behind with gathered := machine.gathered ++ nodes }
  | .change changed => .ok { behind with active := changed }
  | .opens name inverted => .ok { behind with
      stack := ⟨sighting, name, inverted, machine.active, machine.gathered⟩ :: machine.stack
      gathered := [] }
  | .closes name => match machine.stack with
    | [] => .error ⟨.unopened name, sighting.line⟩
    | opening :: outer =>
      if name = opening.name then .ok { behind with
        stack := outer
        active := opening.delimiters
        gathered := opening.gathered ++ [.block opening.name opening.inverted []
          opening.delimiters (some machine.gathered)]
        sections := machine.sections ++ [(opening.sighting, sighting)] }
      else .error ⟨.crossed name opening.name, sighting.line⟩
  | .refused cause => .error ⟨cause, sighting.line⟩

/-- Reading a tag leaves what is behind it. -/
theorem rest_of_step {machine next : Machine} {sighting : Sighting}
    (stepped : machine.step sighting = .ok next) : next.rest = sighting.rest := by
  unfold step past at stepped
  repeat' split at stepped
  all_goals first
    | (obtain rfl := Except.ok.inj stepped; rfl)
    | simp at stepped

/-- Reads tags until there are none. By then every section has to be closed. -/
def run (machine : Machine) : Except ParseError Machine :=
  match found : Tag.find? machine.active machine.rest with
  | none => match machine.stack with
    | [] => .ok machine
    | opening :: _ => .error ⟨.unclosed opening.name, opening.sighting.lineBehind⟩
  | some occurrence => match stepped : machine.step (machine.sight occurrence) with
    | .error error => .error error
    | .ok next =>
      have shorter : next.rest.length < machine.rest.length := by
        rw [rest_of_step stepped]
        exact Tag.find?_rest_shorter found
      run next
termination_by machine.rest.length

/-- Where there are no more tags the machine is done, or a section is still open. -/
theorem run_of_absent {machine : Machine}
    (absent : Tag.find? machine.active machine.rest = none) :
    machine.run = match machine.stack with
      | [] => .ok machine
      | opening :: _ => .error ⟨.unclosed opening.name, opening.sighting.lineBehind⟩ := by
  rw [run.eq_def]
  split
  · rfl
  · rename_i found
    simp [absent] at found

/-- Where there is a tag it is read first. -/
theorem run_of_found {machine : Machine} {occurrence : Tag.Occurrence}
    (found : Tag.find? machine.active machine.rest = some occurrence) :
    machine.run = (machine.step (machine.sight occurrence)).bind run := by
  rw [run.eq_def]
  split
  · rename_i absent
    simp [absent] at found
  · rename_i other otherFound
    obtain rfl : other = occurrence := Option.some.inj (otherFound.symm.trans found)
    split
    · rename_i failed
      rw [failed]
      rfl
    · rename_i next stepped
      change next.run = _
      rw [stepped]
      rfl

end Machine

/-! ## The machine along a parse -/

/-- A visited tag in the whole of the template. -/
def Visit.sightingIn (template : Text) (visit : Visit) : Sighting :=
  visit.sighting (template.take (template.length - visit.cursor.rest.length))

/-- The text that was passed before a visit is what is not behind it. -/
theorem Visit.sightingIn_eq {visit : Visit} {template passed : Text}
    (stands : visit.cursor.Stands template passed) :
    visit.sightingIn template = visit.sighting passed := by
  have length : template.length - visit.cursor.rest.length = passed.length := by
    rw [stands.splits, List.length_append]
    omega
  rw [sightingIn, length, stands.splits, List.take_left]

/-- A machine that is where a parse is, but for a line break that the parse took away. -/
structure Machine.Follows (template passed : Text) (cursor : Cursor) (machine : Machine) :
    Prop where
  stands : cursor.Stands template passed
  skips : ∃ skipped, lineEnd? skipped = some skipped ∧ passed = machine.before ++ skipped ∧
    machine.rest = skipped ++ cursor.rest

section Follows

variable {template passed : Text} {visit : Visit} {cursor : Cursor} {machine : Machine}

/-- A machine starts where parsing starts. -/
theorem Machine.Follows.start (delimiters : Delimiters) (template : Text) :
    (Machine.start delimiters template).Follows template [] (Cursor.start template) :=
  ⟨.start template, [], rfl, rfl, rfl⟩

/-- The machine finds the tags that parsing finds. -/
theorem Machine.Follows.run_of_isNext (follows : machine.Follows template passed visit.cursor)
    (solid : machine.active.AreSolid) (isNext : visit.IsNext machine.active) :
    machine.run = (machine.step (visit.sightingIn template)).bind run := by
  obtain ⟨skipped, isBreak, passedEq, rest⟩ := follows.skips
  have found : Tag.find? machine.active machine.rest =
      some (visit.occurrence.prepend skipped) := by
    rw [rest, Tag.find?_append_of_lineEnd? solid isBreak, isNext, Option.map_some]
  have sighted : machine.sight (visit.occurrence.prepend skipped) = visit.sightingIn template := by
    rw [Visit.sightingIn_eq follows.stands, passedEq]
    simp [Machine.sight, Visit.sighting, Tag.Occurrence.prepend]
  rw [run_of_found found, sighted]

/-- The machine finds no tag where parsing finds none. -/
theorem Machine.Follows.find?_eq_none (follows : machine.Follows template passed cursor)
    (solid : machine.active.AreSolid) (absent : Tag.find? machine.active cursor.rest = none) :
    Tag.find? machine.active machine.rest = none := by
  obtain ⟨skipped, isBreak, -, rest⟩ := follows.skips
  rw [rest, Tag.find?_append_of_lineEnd? solid isBreak, absent, Option.map_none]

/-- Behind a tag the machine is where parsing is. -/
theorem Machine.Follows.next (follows : machine.Follows template passed visit.cursor)
    {delimiters : Delimiters} (solid : delimiters.AreSolid) (isNext : visit.IsNext delimiters)
    {behind : Machine} (before : behind.before = (machine.past (visit.sightingIn template)).before)
    (rest : behind.rest = (machine.past (visit.sightingIn template)).rest) :
    behind.Follows template (passed ++ visit.text) visit.next := by
  refine ⟨isNext.stands solid follows.stands, visit.lineBreak?.getD [], ?_, ?_, ?_⟩
  · cases breaks : visit.lineBreak? with
    | none => rfl
    | some lineBreak => exact lineEnd?_self (Visit.lineBreak?_eq_some_iff.mp breaks).2.2
  · rw [before, Visit.sightingIn_eq follows.stands, visit.text_eq]
    simp [Machine.past, Visit.sighting]
  · rw [rest, Visit.sightingIn_eq follows.stands]
    exact visit.rest_eq

/-- A visited tag is on the line that parsing reports for it. -/
theorem Visit.IsNext.line_eq {delimiters : Delimiters} (isNext : visit.IsNext delimiters)
    (solid : delimiters.AreSolid) (stands : visit.cursor.Stands template passed) :
    (visit.sightingIn template).line = visit.breaks + 1 := by
  have blanks := (Tag.isFirstIn_of_find? solid isNext).blank_isBlank
  rw [Visit.sightingIn_eq stands, Sighting.line, Visit.sighting, Visit.breaks, stands.breaks]
  simp [Text.lineBreaks_eq_zero blanks]

/-- The text behind a visited tag goes on on the line that parsing counted. -/
theorem Visit.IsNext.lineBehind_eq {delimiters : Delimiters} (isNext : visit.IsNext delimiters)
    (solid : delimiters.AreSolid) (stands : visit.cursor.Stands template passed) :
    (visit.sightingIn template).lineBehind = visit.next.breaks + 1 := by
  rw [Visit.sightingIn_eq stands, Sighting.lineBehind, isNext.lineBreak_eq solid stands,
    (isNext.stands solid stands).breaks, visit.text_eq]
  simp [Visit.sighting, Nat.add_assoc]

end Follows

/-- A later machine of the same run: it has read the tags of a passage and gathered what the passage
consists of, and its stack is what it was. -/
structure Machine.Onward (template : Text) (visits : List Visit) (pairs : List (Visit × Visit))
    (nodes : List Node) (active : Delimiters) (machine later : Machine) : Prop where
  run : machine.run = later.run
  active : later.active = active
  stack : later.stack = machine.stack
  gathered : later.gathered = machine.gathered ++ Node.outlineAll nodes
  seen : later.seen = machine.seen ++ visits.map (Visit.sightingIn template)
  sections : later.sections = machine.sections ++
    pairs.map fun (opening, closing) => (opening.sightingIn template, closing.sightingIn template)

/-- Reading on is one reading after the other. -/
theorem Machine.Onward.trans {template : Text} {visits later : List Visit}
    {pairs laterPairs : List (Visit × Visit)} {nodes more : List Node}
    {active further : Delimiters} {machine behind last : Machine}
    (onward : machine.Onward template visits pairs nodes active behind)
    (beyond : behind.Onward template later laterPairs more further last) :
    machine.Onward template (visits ++ later) (pairs ++ laterPairs) (nodes ++ more) further
      last where
  run := onward.run.trans beyond.run
  active := beyond.active
  stack := beyond.stack.trans onward.stack
  gathered := by rw [beyond.gathered, onward.gathered, Node.outlineAll_append, List.append_assoc]
  seen := by rw [beyond.seen, onward.seen, List.map_append, List.append_assoc]
  sections := by rw [beyond.sections, onward.sections, List.map_append, List.append_assoc]

section Onward

variable {delimiters active : Delimiters} {cursor last : Cursor} {visits : List Visit}
  {pairs : List (Visit × Visit)} {nodes : List Node} {template passed : Text} {visit : Visit}
  {machine : Machine}

/-- The machine is asked for what parsing is asked for, without the indentation. -/
theorem Visit.request_sightingIn (template : Text) (visit : Visit) :
    (visit.sightingIn template).tag.request [] = visit.request.outline :=
  (Tag.outline_request visit.placement.indent visit.occurrence.tag).symm

/-- The machine reads a tag that asks for nodes. -/
theorem Machine.Follows.onward_emit (follows : machine.Follows template passed visit.cursor)
    (solid : machine.active.AreSolid) (isNext : visit.IsNext machine.active)
    (asked : visit.request = .emit nodes) :
    ∃ behind, machine.Onward template [visit] [] (visit.placement.kept ++ nodes) machine.active
        behind ∧ behind.Follows template (passed ++ visit.text) visit.next := by
  refine ⟨{ machine.past (visit.sightingIn template) with
    gathered := machine.gathered ++ Node.outlineAll nodes }, ⟨?_, rfl, rfl, ?_, rfl, ?_⟩,
    follows.next solid isNext rfl rfl⟩
  · rw [follows.run_of_isNext solid isNext, step, Visit.request_sightingIn, asked]
    rfl
  · simp
  · simp [Machine.past]

/-- The machine reads a tag that sets delimiters. -/
theorem Machine.Follows.onward_change (follows : machine.Follows template passed visit.cursor)
    (solid : machine.active.AreSolid) (isNext : visit.IsNext machine.active) {changed : Delimiters}
    (asked : visit.request = .change changed) :
    ∃ behind, machine.Onward template [visit] [] visit.placement.kept changed behind ∧
      behind.Follows template (passed ++ visit.text) visit.next := by
  refine ⟨{ machine.past (visit.sightingIn template) with active := changed },
    ⟨?_, rfl, rfl, ?_, rfl, ?_⟩, follows.next solid isNext rfl rfl⟩
  · rw [follows.run_of_isNext solid isNext, step, Visit.request_sightingIn, asked]
    rfl
  · simp [Machine.past]
  · simp [Machine.past]

/-- The machine behind a tag that opens a section. -/
def Machine.inside (machine : Machine) (sighting : Sighting) (name : Text) (inverted : Bool) :
    Machine :=
  { machine.past sighting with
    stack := ⟨sighting, name, inverted, machine.active, machine.gathered⟩ :: machine.stack
    gathered := [] }

/-- The machine reads a tag that opens a section. -/
theorem Machine.Follows.run_opens (follows : machine.Follows template passed visit.cursor)
    (solid : machine.active.AreSolid) (isNext : visit.IsNext machine.active) {name : Text}
    {inverted : Bool} (asked : visit.request = .opens name inverted) :
    machine.run = (machine.inside (visit.sightingIn template) name inverted).run ∧
      (machine.inside (visit.sightingIn template) name inverted).Follows template
        (passed ++ visit.text) visit.next := by
  constructor
  · rw [follows.run_of_isNext solid isNext, step, Visit.request_sightingIn, asked]
    rfl
  · exact follows.next solid isNext rfl rfl

/-- The machine behind a tag that closes a section. -/
def Machine.outside (machine : Machine) (opening : Opening) (outer : List Opening)
    (sighting : Sighting) : Machine :=
  { machine.past sighting with
    stack := outer
    active := opening.delimiters
    gathered := opening.gathered ++ [.block opening.name opening.inverted []
      opening.delimiters (some machine.gathered)]
    sections := machine.sections ++ [(opening.sighting, sighting)] }

/-- The machine reads a tag that closes the innermost open section. -/
theorem Machine.Follows.run_closes (follows : machine.Follows template passed visit.cursor)
    (solid : machine.active.AreSolid) (isNext : visit.IsNext machine.active) {opening : Opening}
    {outer : List Opening} (asked : visit.request = .closes opening.name)
    (isOpen : machine.stack = opening :: outer) :
    machine.run = (machine.outside opening outer (visit.sightingIn template)).run ∧
      (machine.outside opening outer (visit.sightingIn template)).Follows template
        (passed ++ visit.text) visit.next := by
  constructor
  · rw [follows.run_of_isNext solid isNext, step, Visit.request_sightingIn, asked]
    simp only [Tag.Request.outline, isOpen, if_true]
    rfl
  · exact follows.next solid isNext rfl rfl

/-- The machine goes along with a passage. -/
theorem Passage.onward (passage : Passage delimiters cursor visits pairs nodes active last)
    (solid : delimiters.AreSolid) (follows : machine.Follows template passed cursor)
    (isActive : machine.active = delimiters) :
    ∃ later, machine.Onward template visits pairs nodes active later ∧
      later.Follows template (passed ++ Visit.textOf visits) last := by
  induction passage generalizing passed machine with
  | stay => exact ⟨machine, ⟨rfl, isActive, rfl, by simp, by simp, by simp⟩, by simpa using follows⟩
  | emit isNext asked _ inductionHypothesis =>
    subst isActive
    obtain ⟨behind, first, atNext⟩ := follows.onward_emit solid isNext asked
    obtain ⟨later, onward, atLast⟩ := inductionHypothesis solid atNext first.active
    exact ⟨later, first.trans onward, by simpa using atLast⟩
  | change isNext asked _ inductionHypothesis =>
    subst isActive
    obtain ⟨behind, first, atNext⟩ := follows.onward_change solid isNext asked
    obtain ⟨later, onward, atLast⟩ :=
      inductionHypothesis (areSolid_of_request asked) atNext first.active
    exact ⟨later, first.trans onward, by simpa using atLast⟩
  | @block _ opening name inverted inside insidePairs body inner closing _ _ _ _ _ isNext asked
      bodyPassage closingIsNext closingAsked _ within beyond =>
    subst isActive
    obtain ⟨opened, atBody⟩ := follows.run_opens solid isNext asked
    obtain ⟨before, onward, atClosing⟩ := within solid atBody rfl
    have innerSolid : before.active.AreSolid := onward.active ▸ bodyPassage.areSolid solid
    obtain ⟨closed, behindSection⟩ := atClosing.run_closes innerSolid
      (onward.active ▸ closingIsNext) closingAsked onward.stack
    obtain ⟨later, further, atLast⟩ := beyond solid behindSection rfl
    refine ⟨later, ⟨?_, further.active, further.stack, ?_, ?_, ?_⟩, by simpa using atLast⟩
    · rw [opened, onward.run, closed, further.run]
    · rw [further.gathered]
      simp [Machine.outside, onward.gathered, Machine.inside]
    · rw [further.seen]
      simp [Machine.outside, Machine.past, onward.seen, Machine.inside]
    · rw [further.sections]
      simp [Machine.outside, Machine.past, onward.sections, Machine.inside]

end Onward

section Halt

variable {template passed : Text} {machine : Machine}

/-- The name of the innermost open section. -/
def Machine.enclosing? (machine : Machine) : Option Text :=
  machine.stack.head?.map Opening.name

/-- The machine finds wrong what parsing finds wrong. -/
theorem Machine.step_of_fault? {visit : Visit} {cause : ParseError.Cause}
    (faulty : visit.fault? machine.enclosing? = some cause) :
    machine.step (visit.sightingIn template) =
      .error ⟨cause, (visit.sightingIn template).line⟩ := by
  rw [step, Visit.request_sightingIn]
  unfold Visit.fault? enclosing? at faulty
  split at faulty
  · rename_i asked nothing
    obtain rfl := Option.some.inj faulty
    have isEmpty : machine.stack = [] := by simpa using nothing
    simp [asked, Tag.Request.outline, isEmpty]
  · rename_i name expected asked isOpen
    split at faulty
    · simp at faulty
    · rename_i different
      obtain rfl := Option.some.inj faulty
      obtain ⟨opening, isFirst, rfl⟩ := Option.map_eq_some_iff.mp isOpen
      obtain ⟨outer, stack⟩ := List.head?_eq_some_iff.mp isFirst
      simp [asked, Tag.Request.outline, stack, different]
  · rename_i asked
    obtain rfl := Option.some.inj faulty
    simp [asked, Tag.Request.outline]
  · simp at faulty

/-- The machine stops where parsing stops, and with the same report. -/
theorem Halt.run_eq {enclosing : Option Text} {delimiters : Delimiters} {cursor : Cursor}
    {error : ParseError} (halt : Halt enclosing delimiters cursor error)
    (solid : delimiters.AreSolid) (follows : machine.Follows template passed cursor)
    (isActive : machine.active = delimiters) (isOpen : machine.enclosing? = enclosing) :
    machine.run = .error error := by
  induction halt generalizing machine passed with
  | tag passage isNext faulty =>
    obtain ⟨behind, onward, atTag⟩ := passage.onward solid follows isActive
    have behindSolid : behind.active.AreSolid := onward.active ▸ passage.areSolid solid
    have stillOpen : behind.enclosing? = machine.enclosing? := by
      rw [Machine.enclosing?, onward.stack, Machine.enclosing?]
    rw [← isOpen, ← stillOpen] at faulty
    rw [onward.run, atTag.run_of_isNext behindSolid (onward.active ▸ isNext),
      Machine.step_of_fault? faulty, isNext.line_eq (passage.areSolid solid) atTag.stands]
    rfl
  | ended passage isNext asked bodyPassage absent =>
    obtain ⟨behind, onward, atTag⟩ := passage.onward solid follows isActive
    have behindSolid : behind.active.AreSolid := onward.active ▸ passage.areSolid solid
    obtain ⟨opened, atBody⟩ := atTag.run_opens behindSolid (onward.active ▸ isNext) asked
    obtain ⟨last, further, atEnd⟩ :=
      bodyPassage.onward (passage.areSolid solid) atBody onward.active
    have lastSolid : last.active.AreSolid :=
      further.active ▸ bodyPassage.areSolid (passage.areSolid solid)
    have stack := further.stack
    rw [onward.run, opened, further.run,
      Machine.run_of_absent (atEnd.find?_eq_none lastSolid (further.active ▸ absent)), stack]
    simp only [Machine.inside]
    rw [isNext.lineBehind_eq (passage.areSolid solid) atTag.stands]
  | inside passage isNext asked _ inductionHypothesis =>
    obtain ⟨behind, onward, atTag⟩ := passage.onward solid follows isActive
    have behindSolid : behind.active.AreSolid := onward.active ▸ passage.areSolid solid
    obtain ⟨opened, atBody⟩ := atTag.run_opens behindSolid (onward.active ▸ isNext) asked
    rw [onward.run, opened]
    exact inductionHypothesis (passage.areSolid solid) atBody onward.active rfl

end Halt

/-- What the machine has come to at the end of a template that can be parsed. -/
theorem exists_final_of_passage {delimiters active : Delimiters} (solid : delimiters.AreSolid)
    {template : Text} {last : Cursor} {visits : List Visit} {pairs : List (Visit × Visit)}
    {nodes : List Node}
    (passage : Passage delimiters (.start template) visits pairs nodes active last)
    (absent : Tag.find? active last.rest = none) :
    ∃ final, (Machine.start delimiters template).run = .ok final ∧
      (Machine.start delimiters template).Onward template visits pairs nodes active final := by
  obtain ⟨final, onward, atEnd⟩ := passage.onward solid (.start delimiters template) rfl
  have finalSolid : final.active.AreSolid := onward.active ▸ passage.areSolid solid
  have stack : final.stack = [] := onward.stack
  refine ⟨final, ?_, onward⟩
  rw [onward.run,
    Machine.run_of_absent (atEnd.find?_eq_none finalSolid (onward.active ▸ absent)), stack]

/-- Parsing a template through a cache without entries comes to what the machine comes to: to the
same report, or to nodes with the outline that the machine has gathered. -/
theorem outline_result_eq_run (capacity : Option Nat) {delimiters : Delimiters}
    (solid : delimiters.AreSolid) (template : Text) :
    ((Cache.empty capacity).parse delimiters template).result.map Node.outlineAll =
      (Machine.start delimiters template).run.map Machine.gathered := by
  rw [Cache.parse_empty]
  cases result : (parse delimiters template).2 with
  | error error =>
    have halt := parse_eq_error_iff.mp result
    rw [halt.run_eq solid (.start delimiters template) rfl rfl]
    rfl
  | ok nodes =>
    obtain ⟨visits, pairs, inner, active, last, passage, absent, rfl⟩ :=
      parse_eq_ok_iff.mp result
    obtain ⟨final, finished, onward⟩ := exists_final_of_passage solid passage absent
    rw [finished]
    have gathered : final.gathered = Node.outlineAll inner := onward.gathered
    simp [Except.map, gathered]

/-- A section changes the delimiters up to its closing tag. -/
theorem outline_result_eq_run_section :
    Delimiters.standard.AreSolid ∧
      ((Cache.empty none).parse .standard
          (.of "\x7b\x7b#s\x7d\x7d\x7b\x7b=< >=\x7d\x7d<x></s>\x7b\x7by\x7d\x7d")).result.map
            Node.outlineAll =
        (Machine.start .standard
          (.of "\x7b\x7b#s\x7d\x7d\x7b\x7b=< >=\x7d\x7d<x></s>\x7b\x7by\x7d\x7d")).run.map
            Machine.gathered ∧
      (Machine.start .standard
          (.of "\x7b\x7b#s\x7d\x7d\x7b\x7b=< >=\x7d\x7d<x></s>\x7b\x7by\x7d\x7d")).run.map
            Machine.gathered =
        .ok [.block (.of "s") false [] .standard (some [.interpolation (.of "x") true]),
          .interpolation (.of "y") true] :=
  ⟨by decide, outline_result_eq_run none (by decide) _, by cbv⟩

end Template

end Stencil
