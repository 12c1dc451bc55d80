import Stencil.Proofs.Command.Sources

/-!
# Stages of a run

What a run has gathered it saves if a file is named for the data; then it renders, and what it has
rendered it delivers. Rendering leaves the files as they are, so they change in two places only:
where the data are saved (`IsSaved`), and where the output is delivered. `produce_cases` says what a
run comes to before it delivers anything.
-/

namespace Stencil.Command

variable {readers : Readers} {files : FileTree} {options : Options} {work after : Work}

/-! ## Rendering -/

/-- What a view makes of a template and data, where it is made with a directory for its partials and
with their extension, and then asked to render. -/
def rendering (partials extension : Operand) (files : FileTree) (template : Text) (data : Record) :
    Except Failure Value :=
  let (value, store) := (Datum.mapping data).toValue (.empty .unbounded)
  let computation : Render Value := do
    let view ← View.make (documentBlueprint partials extension)
    View.callRender view (.text template) value .null
  (computation (.start store files)).1

/-- The view of a run has no field with a reserved name. -/
theorem make_documentBlueprint (partials extension : Operand) (session : Session) :
    View.make (documentBlueprint partials extension) session =
      (.ok (View.of (documentBlueprint partials extension)), session) :=
  rfl

/-- The view of a run renders as every view does. -/
theorem member?_render (partials extension : Operand) (store : Store) :
    (View.of (documentBlueprint partials extension)).member? store (Text.of "render") =
      some (.computed (.ofView .render)) :=
  rfl

/-- A run renders as its view does, and leaves the files as they are. -/
theorem render_cases (partials extension : Operand) (template : Text) (data : Record)
    (work : Work) : ∃ log,
      (∃ output, rendering partials extension work.files template data = .ok (.text output) ∧
        render partials extension template data work = (.ok output, { work with log := log })) ∨
      ∃ failure, rendering partials extension work.files template data = .error failure ∧
        render partials extension template data work =
          (.error (stopOfFailure failure), { work with log := log }) := by
  unfold rendering render
  -- Both sides come to one rendering by the view, once the view was made and has been found to
  -- render as views do.
  obtain ⟨value, store⟩ := (Datum.mapping data).toValue (.empty .unbounded)
  dsimp only
  rw [bind_of_ok (make_documentBlueprint partials extension _), View.callRender, bind_of_get,
    member?_render, bind_of_get]
  dsimp only
  cases outcome : Render.view (Render.generate Render.depthLimit)
    (View.of (documentBlueprint partials extension)) (.text template) value .null
    (.start store work.files) with
  | mk result session =>
    refine ⟨session.log ++ work.log, ?_⟩
    cases result with
    | ok output =>
      refine .inl ⟨output, ?_, rfl⟩
      rw [bind_of_ok outcome]
      rfl
    | error failure =>
      refine .inr ⟨failure, ?_, rfl⟩
      rw [bind_of_error outcome]

/-! ## Writing -/

/-- A text is written, or its path is refused. -/
theorem writeFile_eq (stop : FileError → Stop) (path : Path) (text : Text) (work : Work) :
    writeFile stop path text work = match work.files.write path text with
      | .ok files => (if text.toString?.isNone then .error (.escaped .unencodable) else .ok (),
        { work with files := files })
      | .error error => (.error (stop error), work) := by
  unfold writeFile
  rw [bind_of_get]
  cases work.files.write path text with
  | ok files => cases text.toString? <;> rfl
  | error error => rfl

/-- The files after the data were written, if a file is named for them. -/
inductive IsSaved (name : Text) (data : Record) (before : FileTree) : FileTree → Prop where
  | unasked (unnamed : name = []) : IsSaved name data before before
  | written {text : Text} {after : FileTree} (named : name ≠ [])
      (isText : Json.write? 0 (.mapping data) = some text) (isEncodable : text.toString?.isSome)
      (written : before.write (Path.ofText name) text = .ok after) :
      IsSaved name data before after

/-- Where no file is named for the data, nothing is written. -/
theorem IsSaved.eq_of_unnamed {name : Text} {data : Record} {saved : FileTree}
    (isSaved : IsSaved name data files saved) (unnamed : name = []) : saved = files := by
  cases isSaved with
  | unasked => rfl
  | written named => exact absurd unnamed named

/-- Data that can be saved are saved. -/
theorem writeData_of_isSaved {name : Text} {data : Record} {saved : FileTree}
    (isSaved : IsSaved name data work.files saved) :
    writeData name data work = (.ok (), { work with files := saved }) := by
  unfold writeData
  cases isSaved with
  | unasked unnamed =>
    rw [if_pos unnamed]
    rfl
  | written named isText isEncodable written =>
    rw [if_neg named, isText]
    dsimp only
    rw [writeFile_eq, written, Option.isNone_eq_false_iff.mpr isEncodable]
    rfl

/-- Data are saved, or the run stops. It has written nothing then if no file is named for them. -/
theorem writeData_cases (name : Text) (data : Record) (work : Work) :
    ∃ saved, IsSaved name data work.files saved ∧
        writeData name data work = (.ok (), { work with files := saved }) ∨
      ∃ stop, stop.Answers ∧ name ≠ [] ∧
        writeData name data work = (.error stop, { work with files := saved }) := by
  by_cases named : name = []
  · have isSaved : IsSaved name data work.files work.files := .unasked named
    exact ⟨work.files, .inl ⟨isSaved, writeData_of_isSaved isSaved⟩⟩
  · unfold writeData
    rw [if_neg named]
    cases isText : Json.write? 0 (.mapping data) with
    | none => exact ⟨work.files, .inr ⟨.escaped .unwritableKey, nofun, named, rfl⟩⟩
    | some text =>
      dsimp only
      rw [writeFile_eq]
      cases outcome : work.files.write (Path.ofText name) text with
      | error error => exact ⟨work.files, .inr ⟨_, answers_stopOfFileError error, named, rfl⟩⟩
      | ok saved =>
        cases isEncodable : text.toString? with
        | none => exact ⟨saved, .inr ⟨.escaped .unencodable, nofun, named, rfl⟩⟩
        | some string =>
          exact ⟨saved, .inl ⟨.written named isText (by rw [isEncodable]; rfl) outcome, rfl⟩⟩

/-- Without a file to write to the output is shown; else it is written, or its path is refused. -/
theorem deliver_eq (name output : Text) (work : Work) :
    deliver name output work = if name = [] then (.ok output, work)
      else match work.files.write (Path.ofText name) output with
        | .ok files => (if output.toString?.isNone then .error (.escaped .unencodable)
            else .ok (Text.of "Wrote: " ++ (Path.ofText name).text ++ Text.of "\n"),
          { work with files := files })
        | .error error => (.error (.escaped (.unusable error)), work) := by
  unfold deliver
  split
  · rfl
  · have wrote := writeFile_eq (fun error => .escaped (.unusable error)) (Path.ofText name) output
      work
    cases outcome : work.files.write (Path.ofText name) output with
    | error error =>
      rw [outcome] at wrote
      exact bind_of_error wrote
    | ok files =>
      rw [outcome] at wrote
      cases isEncodable : output.toString? with
      | none =>
        rw [isEncodable] at wrote
        exact bind_of_error wrote
      | some string =>
        rw [isEncodable] at wrote
        exact bind_of_ok wrote

/-! ## What a run is to output -/

/-- From what is provided for it a run goes on to render, after the data were saved. -/
theorem exists_produce_eq_render {sources : Sources} {saved : FileTree} (work : Work)
    (areOf : sources.AreOf readers options work.files work.input)
    (isSaved : IsSaved options.dataOutput sources.data work.files saved) :
    ∃ between : Work, between.files = saved ∧ produce readers options work =
      render options.partials options.extension sources.template sources.data between := by
  obtain ⟨input, log, gathers⟩ := gather_of_areOf work areOf
  refine ⟨⟨saved, input, log⟩, rfl, ?_⟩
  have saves : writeData options.dataOutput sources.data { work with input := input, log := log } =
      (.ok (), ⟨saved, input, log⟩) :=
    writeData_of_isSaved isSaved
  exact (bind_of_ok gathers).trans (bind_of_ok saves)

/-- What a run is to output, it renders from what is provided for it, after the data were saved. Or
it comes to no output; then no refusal of the file system escapes, and unless the data are to be
saved, the files are left as they are. -/
theorem produce_cases (readers : Readers) (options : Options) (work : Work) :
    ∃ after, (∃ sources : Sources, ∃ output,
        sources.AreOf readers options work.files work.input ∧
        IsSaved options.dataOutput sources.data work.files after.files ∧
        rendering options.partials options.extension after.files sources.template sources.data =
          .ok (.text output) ∧
        produce readers options work = (.ok output, after)) ∨
      ∃ stop, stop.Answers ∧ (options.dataOutput = [] → after.files = work.files) ∧
        produce readers options work = (.error stop, after) := by
  have yields := yields_gather readers options work
  unfold produce
  cases outcome : gather readers options work with
  | mk result gathered =>
    cases result with
    | error stop =>
      obtain ⟨sameFiles, answers⟩ := yields.of_error outcome
      exact ⟨gathered, .inr ⟨stop, answers, fun _ => sameFiles, bind_of_error outcome⟩⟩
    | ok result =>
      obtain ⟨sameFiles, sources, areOf, rfl⟩ := yields.of_ok outcome
      rw [bind_of_ok outcome]
      dsimp only
      obtain ⟨files, ⟨isSaved, saves⟩ | ⟨stop, answers, named, fails⟩⟩ :=
        writeData_cases options.dataOutput sources.data gathered
      · obtain ⟨log, ⟨output, rendered, renders⟩ | ⟨failure, -, fails⟩⟩ :=
          render_cases options.partials options.extension sources.template sources.data
            { gathered with files := files }
        · exact ⟨⟨files, gathered.input, log⟩, .inl ⟨sources, output, areOf, sameFiles ▸ isSaved,
            rendered, (bind_of_ok saves).trans renders⟩⟩
        · exact ⟨⟨files, gathered.input, log⟩, .inr ⟨_, answers_stopOfFailure failure,
            fun unnamed => (isSaved.eq_of_unnamed unnamed).trans sameFiles,
            (bind_of_ok saves).trans fails⟩⟩
      · exact ⟨_, .inr ⟨stop, answers, fun unnamed => absurd unnamed named, bind_of_error fails⟩⟩

/-! ## Whole runs -/

/-- There is something to do: documents are named, or the standard input is one. -/
def Invocation.HasInput (invocation : Invocation) (options : Options) : Prop :=
  options.files ≠ [] ∨ invocation.atTerminal = false

section Ending

variable {invocation : Invocation}
  (accepted : Options.ofArguments invocation.arguments = .ok options)
include accepted

/-- A run that has something to do produces an output and delivers it. -/
theorem runWith_of_hasInput (hasInput : invocation.HasInput options) {result : Except Stop Text}
    (ran : (produce readers options >>= deliver options.output) invocation.work =
      (result, after)) :
    (runWith readers invocation).ending = .of result ∧
      (runWith readers invocation).files = after.files := by
  have something : ¬ (options.files = [] ∧ invocation.atTerminal = true) := by
    rintro ⟨noFiles, atTerminal⟩
    rcases hasInput with named | notAtTerminal
    · exact named noFiles
    · exact absurd atTerminal (by simp [notAtTerminal])
  unfold runWith
  rw [accepted]
  dsimp only
  rw [if_neg something, ran]
  exact ⟨rfl, rfl⟩

/-- A run that has nothing to do says how it is used. -/
theorem runWith_of_not_hasInput (noInput : ¬ invocation.HasInput options) :
    (runWith readers invocation).ending = .idle := by
  have nothing : options.files = [] ∧ invocation.atTerminal = true := by
    constructor
    · exact Classical.byContradiction fun named => noInput (.inl named)
    · exact Bool.of_not_eq_false fun notAtTerminal => noInput (.inr notAtTerminal)
  unfold runWith
  rw [accepted]
  dsimp only
  rw [if_pos nothing]

end Ending

end Stencil.Command
