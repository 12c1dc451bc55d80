import Stencil.Proofs.Template.Machine

/-!
# The line of a report

A template that cannot be parsed is malformed at one tag (`Machine.Rejects`): the first one that the
machine cannot read, or, if it can read them all, the one that opened the innermost section that is
still open at the end. The report gives the line of that tag, with one exception. What it gives for
a section that is never closed is the line on which its body begins: it counts the line breaks in
the opening tag too, and the one that disappears with the tag (`Sighting.overcount`).
-/

namespace Stencil

/-- No tag is refused for a section that is never closed. -/
theorem Tag.request_ne_unclosed {indent : Text} {tag : Tag} (name : Text) :
    tag.request indent ≠ .refused (.unclosed name) := by
  unfold Tag.request
  repeat' split
  all_goals simp

namespace Template

/-! ## The malformed tag -/

/-- What is wrong with a tag in the innermost open section, if anything is. -/
def Sighting.fault? (enclosing : Option Text) (sighting : Sighting) : Option ParseError.Cause :=
  match sighting.tag.request [], enclosing with
  | .closes name, none => some (.unopened name)
  | .closes name, some expected => if name = expected then none else some (.crossed name expected)
  | .refused cause, _ => some cause
  | _, _ => none

namespace Machine

/-- A machine and what becomes of it after some tags. -/
inductive Reads : Machine → Machine → Prop where
  | refl {machine} : Reads machine machine
  | step {machine occurrence behind later}
      (found : Tag.find? machine.active machine.rest = some occurrence)
      (read : machine.step (machine.sight occurrence) = .ok behind)
      (further : Reads behind later) : Reads machine later

/-- The tag at which a template is malformed, and what is wrong with it. -/
inductive Rejects (machine : Machine) : ParseError.Cause → Sighting → Prop where
  | tag {later occurrence cause} (reads : machine.Reads later)
      (found : Tag.find? later.active later.rest = some occurrence)
      (faulty : (later.sight occurrence).fault? later.enclosing? = some cause) :
      Rejects machine cause (later.sight occurrence)
  | ended {later opening outer} (reads : machine.Reads later)
      (absent : Tag.find? later.active later.rest = none)
      (isOpen : later.stack = opening :: outer) :
      Rejects machine (.unclosed opening.name) opening.sighting

end Machine

/-- The line breaks that a report counts although they do not stand before the tag. -/
def Sighting.overcount (sighting : Sighting) : ParseError.Cause → Nat
  | .unclosed _ => Text.lineBreaks (sighting.source ++ sighting.lineBreak)
  | _ => 0

section Machine

variable {machine later : Machine} {sighting : Sighting} {cause : ParseError.Cause}
  {error : ParseError} {template : Text}

/-- A machine cannot read exactly the tags that something is wrong with. -/
theorem Machine.step_eq_error_iff :
    machine.step sighting = .error error ↔
      sighting.fault? machine.enclosing? = some error.cause ∧ error.line = sighting.line := by
  obtain ⟨cause, line⟩ := error
  unfold Machine.step Sighting.fault? Machine.enclosing?
  cases sighting.tag.request [] with
  | closes name =>
    cases machine.stack with
    | nil => simp [eq_comm]
    | cons opening outer =>
      by_cases same : name = opening.name
      · simp [same]
      · simp [same, eq_comm]
  | refused cause => simp [eq_comm]
  | _ => simp

/-- Reading goes through the tags that were read. -/
theorem Machine.Reads.run_eq (reads : machine.Reads later) : machine.run = later.run := by
  induction reads with
  | refl => rfl
  | step found read _ inductionHypothesis =>
    rw [Machine.run_of_found found, read]
    exact inductionHypothesis

/-- What is wrong with a tag that cannot be read is not that a section is never closed. -/
theorem Sighting.overcount_eq_zero {enclosing : Option Text}
    (faulty : sighting.fault? enclosing = some cause) : sighting.overcount cause = 0 := by
  cases cause with
  | unclosed name =>
    unfold Sighting.fault? at faulty
    split at faulty
    · simp at faulty
    · split at faulty <;> simp at faulty
    · rename_i asked
      obtain rfl := Option.some.inj faulty
      exact absurd asked (Tag.request_ne_unclosed name)
    · simp at faulty
  | _ => rfl

/-- The line behind a tag is its own line, and as many further on as are counted too many. -/
theorem Sighting.lineBehind_eq (sighting : Sighting) (name : Text) :
    sighting.lineBehind = sighting.line + sighting.overcount (.unclosed name) := by
  rw [Sighting.lineBehind, Sighting.line, Sighting.overcount, List.append_assoc,
    Text.lineBreaks_append]
  omega

namespace Machine

/-- What is rejected later is rejected. -/
theorem Rejects.before {occurrence : Tag.Occurrence} {behind : Machine}
    (found : Tag.find? machine.active machine.rest = some occurrence)
    (read : machine.step (machine.sight occurrence) = .ok behind)
    (rejects : behind.Rejects cause sighting) : machine.Rejects cause sighting := by
  cases rejects with
  | tag reads laterFound faulty => exact .tag (.step found read reads) laterFound faulty
  | ended reads absent isOpen => exact .ended (.step found read reads) absent isOpen

/-- A machine comes to a report exactly if it rejects a tag, and the report is about that tag. -/
theorem run_eq_error_iff :
    machine.run = .error error ↔
      ∃ sighting, machine.Rejects error.cause sighting ∧
        error.line = sighting.line + sighting.overcount error.cause := by
  constructor
  · intro failed
    fun_induction Machine.run machine with
    | case1 => simp at failed
    | case2 machine absent opening outer isOpen =>
      obtain rfl := Except.error.inj failed
      exact ⟨opening.sighting, .ended .refl absent isOpen, opening.sighting.lineBehind_eq _⟩
    | case3 machine occurrence found other stepped =>
      obtain rfl := Except.error.inj failed
      obtain ⟨faulty, line⟩ := step_eq_error_iff.mp stepped
      refine ⟨machine.sight occurrence, .tag .refl found faulty, ?_⟩
      rw [line, Sighting.overcount_eq_zero faulty, Nat.add_zero]
    | case4 machine occurrence found behind stepped shorter inductionHypothesis =>
      obtain ⟨sighting, rejects, line⟩ := inductionHypothesis failed
      exact ⟨sighting, rejects.before found stepped, line⟩
  · rintro ⟨sighting, rejects, line⟩
    obtain ⟨cause, reported⟩ := error
    cases rejects with
    | @tag later occurrence _ reads found faulty =>
      rw [Sighting.overcount_eq_zero faulty, Nat.add_zero] at line
      rw [reads.run_eq, run_of_found found, step_eq_error_iff.mpr ⟨faulty, line⟩]
      rfl
    | @ended later opening outer reads absent isOpen =>
      rw [← Sighting.lineBehind_eq] at line
      rw [reads.run_eq, run_of_absent absent, isOpen]
      exact congrArg (fun line => Except.error (ParseError.mk _ line)) line.symm

end Machine

end Machine

/-! ## Tags of the template -/

/-- A tag where it stands in a template. -/
def Sighting.IsIn (template : Text) (sighting : Sighting) : Prop :=
  sighting.before ++ (sighting.source ++ sighting.rest) = template

/-- A machine at a place of a template, with the tags of the open sections before it. -/
structure Machine.IsIn (template : Text) (machine : Machine) : Prop where
  splits : machine.before ++ machine.rest = template
  openings : ∀ opening ∈ machine.stack, opening.sighting.IsIn template

section IsIn

variable {template : Text} {machine behind : Machine} {occurrence : Tag.Occurrence}

/-- A machine sees the tags of its template. -/
theorem Machine.IsIn.sight (isIn : machine.IsIn template)
    (found : Tag.find? machine.active machine.rest = some occurrence) :
    (machine.sight occurrence).IsIn template := by
  have splits := isIn.splits
  rw [(Tag.find?_splits found).1] at splits
  simpa [Sighting.IsIn, Machine.sight] using splits

/-- A machine stays in its template when it reads a tag. -/
theorem Machine.IsIn.step (isIn : machine.IsIn template)
    (found : Tag.find? machine.active machine.rest = some occurrence)
    (read : machine.step (machine.sight occurrence) = .ok behind) : behind.IsIn template := by
  have seen := isIn.sight found
  have splits : (machine.sight occurrence).before ++ (machine.sight occurrence).source ++
      (machine.sight occurrence).rest = template := by
    rw [List.append_assoc]
    exact seen
  unfold Machine.step Machine.past at read
  split at read
  · obtain rfl := Except.ok.inj read
    exact ⟨splits, isIn.openings⟩
  · obtain rfl := Except.ok.inj read
    exact ⟨splits, isIn.openings⟩
  · obtain rfl := Except.ok.inj read
    exact ⟨splits, List.forall_mem_cons.mpr ⟨seen, isIn.openings⟩⟩
  · split at read
    · simp at read
    · rename_i opening outer isOpen
      split at read
      · obtain rfl := Except.ok.inj read
        have openings := isIn.openings
        rw [isOpen] at openings
        exact ⟨splits, (List.forall_mem_cons.mp openings).2⟩
      · simp at read
  · simp at read

/-- A machine stays in its template however many tags it reads. -/
theorem Machine.IsIn.reads {later : Machine} (isIn : machine.IsIn template)
    (reads : machine.Reads later) : later.IsIn template := by
  induction reads with
  | refl => exact isIn
  | step found read _ inductionHypothesis => exact inductionHypothesis (isIn.step found read)

/-- A rejected tag is one of the template. -/
theorem Machine.IsIn.rejects {cause : ParseError.Cause} {sighting : Sighting}
    (isIn : machine.IsIn template) (rejects : machine.Rejects cause sighting) :
    sighting.IsIn template := by
  cases rejects with
  | tag reads found _ => exact (isIn.reads reads).sight found
  | ended reads _ isOpen =>
    exact (isIn.reads reads).openings _ (isOpen ▸ List.mem_cons_self)

end IsIn

/-! ## Reports -/

/-- A machine that starts in front of a template is in it. -/
theorem Machine.IsIn.start (delimiters : Delimiters) (template : Text) :
    (Machine.start delimiters template).IsIn template :=
  ⟨rfl, by simp [Machine.start]⟩

/-- Parsing comes to a report exactly if a tag of the template is rejected, for what is wrong with
that tag. The report gives the line of the tag; for a section that is never closed it gives a later
line if there are line breaks in the opening tag or if one disappears with it. -/
theorem result_eq_error_iff (capacity : Option Nat) {delimiters : Delimiters}
    (solid : delimiters.AreSolid) (template : Text) (error : ParseError) :
    ((Cache.empty capacity).parse delimiters template).result = .error error ↔
      ∃ sighting, (Machine.start delimiters template).Rejects error.cause sighting ∧
        sighting.IsIn template ∧
        error.line = sighting.line + sighting.overcount error.cause := by
  have sameReport : ((Cache.empty capacity).parse delimiters template).result = .error error ↔
      (Machine.start delimiters template).run = .error error := by
    rw [Cache.parse_empty]
    cases result : (parse delimiters template).2 with
    | error other =>
      have run := (parse_eq_error_iff.mp result).run_eq solid (.start delimiters template) rfl rfl
      rw [run, Except.error.injEq, Except.error.injEq]
    | ok nodes =>
      obtain ⟨visits, pairs, inner, active, last, passage, absent, rfl⟩ :=
        parse_eq_ok_iff.mp result
      obtain ⟨final, finished, -⟩ := exists_final_of_passage solid passage absent
      simp [finished]
  rw [sameReport, Machine.run_eq_error_iff]
  refine exists_congr fun sighting => ⟨?_, ?_⟩
  · rintro ⟨rejects, line⟩
    exact ⟨rejects, (Machine.IsIn.start delimiters template).rejects rejects, line⟩
  · rintro ⟨rejects, -, line⟩
    exact ⟨rejects, line⟩

/-- An opening tag on a line of its own, with nothing behind that line. -/
def unclosedTemplate : Text :=
  .of "\x7b\x7b#a\x7d\x7d\n"

/-- The opening tag as it is seen. -/
def unclosedTag : Sighting where
  before := []
  source := .of "\x7b\x7b#a\x7d\x7d"
  tag := ⟨.plain (some (.char '#')), .of "a"⟩
  rest := .of "\n"

/-- The machine behind the opening tag. -/
def unclosedMachine : Machine :=
  (Machine.start .standard unclosedTemplate).inside unclosedTag (.of "a") false

/-- Nothing closes the section of the opening tag. -/
theorem rejects_unclosedTag :
    (Machine.start .standard unclosedTemplate).Rejects (.unclosed (.of "a")) unclosedTag := by
  have found : Tag.find? .standard unclosedTemplate =
      some ⟨[], [], unclosedTag.source, unclosedTag.tag, unclosedTag.rest⟩ := by
    cbv
  have read : (Machine.start .standard unclosedTemplate).step unclosedTag =
      .ok unclosedMachine := by
    cbv
  have absent : Tag.find? unclosedMachine.active unclosedMachine.rest = none := by
    cbv
  exact .ended (.step found read .refl) absent rfl

/-- The section of the opening tag is reported on the line behind it. -/
theorem parse_unclosedTemplate :
    ((Cache.empty none).parse .standard unclosedTemplate).result =
      .error ⟨.unclosed (.of "a"), 2⟩ := by
  have parsed : parse .standard unclosedTemplate = ([], .error ⟨.unclosed (.of "a"), 2⟩) := by
    cbv
  rw [Cache.parse_empty, parsed]

/-- The opening tag is reported on the line behind it. -/
theorem result_eq_error_iff_unclosedTemplate :
    Delimiters.standard.AreSolid ∧
      ∃ sighting, (Machine.start .standard unclosedTemplate).Rejects (.unclosed (.of "a"))
          sighting ∧
        sighting.IsIn unclosedTemplate ∧
        2 = sighting.line + sighting.overcount (.unclosed (.of "a")) :=
  ⟨by decide, (result_eq_error_iff none (by decide) _ _).mp parse_unclosedTemplate⟩

/-- The opening tag is on the first line, and its section is reported on the second one. -/
theorem line_ne_of_unclosed :
    ∃ error sighting,
      ((Cache.empty none).parse .standard unclosedTemplate).result = .error error ∧
        (Machine.start .standard unclosedTemplate).Rejects error.cause sighting ∧
        sighting.IsIn unclosedTemplate ∧ sighting.line = 1 ∧ error.line = 2 :=
  ⟨⟨.unclosed (.of "a"), 2⟩, unclosedTag, parse_unclosedTemplate, rejects_unclosedTag, rfl,
    by decide, rfl⟩

end Template

end Stencil
