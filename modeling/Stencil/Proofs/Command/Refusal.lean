import Mathlib
import Stencil.Proofs.Command.Stage

/-!
# Paths that the file system refuses

A run asks the file system for its data files, its documents and its partials, and it writes to it
the data and the output, each at its time (`Refused`). A refusal ends the run. If it is one that a
file system gives, and not one of a path that no system knows, it is reported; only a refusal to
take the output is not reported but escapes, since the output is written when nothing is watched any
more (`ending_of_refused`).
-/

namespace Stencil

namespace Command

variable {readers : Readers} {invocation : Invocation} {options : Options} {error : FileError}

/-- What a run wants of the file system. -/
inductive Site where
  | dataFile
  | document
  | dataOutput
  | partialFile
  | output
  deriving DecidableEq, Repr

/-- The file system refuses what a run comes to want after it got all it wanted before: a data file
or a document out of a list, the place for the data, a partial, or the place for the output. -/
inductive Refused (readers : Readers) (invocation : Invocation) (options : Options) :
    Site → FileError → Prop where
  | dataFile {before behind : List Operand} {name : Text} {records : List Record}
      {error : FileError} (named : options.dataFiles = before ++ some name :: behind)
      (loaded : List.Forall₂ (Loads readers invocation.files) before records)
      (refused : invocation.files.read (Path.ofText name) = .error (.refused error)) :
      Refused readers invocation options .dataFile error
  | document {before behind texts : List Text} {name : Text} {records : List Record}
      {error : FileError}
      (loaded : List.Forall₂ (Loads readers invocation.files) options.dataFiles records)
      (named : options.documents = before ++ name :: behind)
      (areRead : AreRead invocation.files invocation.input before texts)
      (isFile : name ≠ Text.of "-")
      (refused : invocation.files.read (Path.ofText name) = .error (.refused error)) :
      Refused readers invocation options .document error
  | dataOutput {sources : Sources} {text : Text} {error : FileError}
      (areOf : sources.AreOf readers options invocation.files invocation.input)
      (named : options.dataOutput ≠ []) (isText : Json.write? 0 (.mapping sources.data) = some text)
      (refused : invocation.files.write (Path.ofText options.dataOutput) text = .error error) :
      Refused readers invocation options .dataOutput error
  | partialFile {sources : Sources} {saved : FileTree} {error : FileError}
      (areOf : sources.AreOf readers options invocation.files invocation.input)
      (isSaved : IsSaved options.dataOutput sources.data invocation.files saved)
      (fails : rendering options.partials options.extension saved sources.template sources.data =
        .error (.unreadable (.refused error))) :
      Refused readers invocation options .partialFile error
  | output {sources : Sources} {saved : FileTree} {output : Text} {error : FileError}
      (areOf : sources.AreOf readers options invocation.files invocation.input)
      (isSaved : IsSaved options.dataOutput sources.data invocation.files saved)
      (rendered : rendering options.partials options.extension saved sources.template
        sources.data = .ok (.text output))
      (named : options.output ≠ [])
      (refused : saved.write (Path.ofText options.output) output = .error error) :
      Refused readers invocation options .output error

/-- Where anything but the output is refused, the run comes to no output. -/
theorem produce_of_refused {site : Site} (refused : Refused readers invocation options site error)
    (notOutput : site ≠ .output) :
    ∃ after, produce readers options invocation.work = (.error (stopOfFileError error), after) := by
  unfold produce
  cases refused with
  | @dataFile before behind name records _ named loaded refused =>
    have fails : DataFile.loadWith readers invocation.files (Path.ofText name) =
        .error (.unreadable (.refused error)) := by
      rw [DataFile.loadWith, refused]
      rfl
    obtain ⟨log, stops⟩ := foldlM_addDataFile_of_error invocation.work loaded fails behind []
    rw [← named] at stops
    have gathers : gather readers options invocation.work = (.error (stopOfFileError error), _) :=
      bind_of_error stops
    exact ⟨_, bind_of_error gathers⟩
  | @document before behind texts name records _ loaded named areRead isFile refused =>
    obtain ⟨log, loads⟩ := foldlM_addDataFile_of_loads loaded [] invocation.work rfl
    obtain ⟨rest, stops⟩ := mapM_readDocument_of_error areRead isFile refused behind log
    rw [← named] at stops
    have documents : readDocuments options ⟨invocation.files, invocation.input, log⟩ =
        (.error (stopOfFileError error), ⟨invocation.files, rest, log⟩) :=
      bind_of_error stops
    have gathers : gather readers options invocation.work =
        (.error (stopOfFileError error), ⟨invocation.files, rest, log⟩) :=
      (bind_of_ok loads).trans (bind_of_error documents)
    exact ⟨_, bind_of_error gathers⟩
  | @dataOutput sources text _ areOf named isText refused =>
    obtain ⟨input, log, gathers⟩ := gather_of_areOf invocation.work areOf
    have stops : writeData options.dataOutput sources.data ⟨invocation.files, input, log⟩ =
        (.error (stopOfFileError error), ⟨invocation.files, input, log⟩) := by
      rw [writeData, if_neg named, isText]
      dsimp only
      rw [writeFile_eq, refused]
    exact ⟨_, (bind_of_ok gathers).trans (bind_of_error stops)⟩
  | @partialFile sources saved _ areOf isSaved fails =>
    obtain ⟨between, rfl, produces⟩ := exists_produce_eq_render invocation.work areOf isSaved
    obtain ⟨log, ⟨output, rendered, -⟩ | ⟨failure, failed, stops⟩⟩ :=
      render_cases options.partials options.extension sources.template sources.data between
    · cases rendered.symm.trans fails
    · cases failed.symm.trans fails
      exact ⟨_, produces.trans stops⟩
  | output => exact absurd rfl notOutput

/-- Where the output is refused, this is how the run stops. -/
theorem deliver_of_refused (refused : Refused readers invocation options .output error) :
    ∃ after, (produce readers options >>= deliver options.output) invocation.work =
      (.error (.escaped (.unusable error)), after) := by
  cases refused with
  | @output sources saved output _ areOf isSaved rendered named refused =>
    obtain ⟨between, rfl, produces⟩ := exists_produce_eq_render invocation.work areOf isSaved
    obtain ⟨log, ⟨text, renderedText, renders⟩ | ⟨failure, failed, -⟩⟩ :=
      render_cases options.partials options.extension sources.template sources.data between
    · cases renderedText.symm.trans rendered
      refine ⟨{ between with log := log }, ?_⟩
      rw [bind_of_ok (produces.trans renders), deliver_eq, if_neg named]
      dsimp only
      rw [refused]
    · cases failed.symm.trans rendered

/-- A refusal of the file system that escapes is one to take the output. -/
theorem refused_of_escaped {after : Work} {reason : Escape} (isOfSystem : error.IsOfSystem)
    (isRefusal : reason.refusal? = some error)
    (escapes : (produce readers options >>= deliver options.output) invocation.work =
      (.error (.escaped reason), after)) :
    Refused readers invocation options .output error := by
  obtain ⟨between, ⟨sources, output, areOf, isSaved, rendered, produces⟩ |
      ⟨stop, answers, -, stops⟩⟩ := produce_cases readers options invocation.work
  · rw [bind_of_ok produces, deliver_eq] at escapes
    split at escapes
    · cases escapes
    · rename_i named
      split at escapes
      · split at escapes
        · cases escapes
          cases isRefusal
        · cases escapes
      · rename_i refused
        cases escapes
        cases isRefusal
        exact .output areOf isSaved rendered named refused
  · cases (bind_of_error stops).symm.trans escapes
    exact absurd isOfSystem (answers error isRefusal)

/-- The refusal that a run ends with at once, if it does. -/
def Ending.refusal? : Ending → Option FileError
  | .escape reason => reason.refusal?
  | _ => none

/-- A run that ends at once with a refusal was stopped by it. -/
theorem exists_of_refusal? {result : Except Stop Text}
    (escapes : (Ending.of result).refusal? = some error) :
    ∃ reason, reason.refusal? = some error ∧ result = .error (.escaped reason) := by
  match result with
  | .ok output => cases escapes
  | .error (.reported message) => cases escapes
  | .error (.escaped reason) => exact ⟨reason, escapes, rfl⟩

/-- Whatever the file system refuses to a run that has something to do is reported, but for a
refusal to take the output: this one escapes. No other refusal of the file system escapes from any
run. -/
theorem ending_of_refused (readers : Readers) (invocation : Invocation) {options : Options}
    (accepted : Options.ofArguments invocation.arguments = .ok options) (error : FileError)
    (isOfSystem : error.IsOfSystem) :
    (∀ site, site ≠ .output → invocation.HasInput options →
      Refused readers invocation options site error →
      (runWith readers invocation).ending = .failure error.message) ∧
    ((runWith readers invocation).ending.refusal? = some error ↔
      invocation.HasInput options ∧ Refused readers invocation options .output error) := by
  refine ⟨fun site notOutput hasInput refused => ?_, fun escapes => ?_, ?_⟩
  · obtain ⟨after, stops⟩ := produce_of_refused refused notOutput
    rw [stopOfFileError_of_isOfSystem isOfSystem] at stops
    exact (runWith_of_hasInput accepted hasInput (bind_of_error stops)).1
  · by_cases hasInput : invocation.HasInput options
    · cases ran : (produce readers options >>= deliver options.output) invocation.work with
      | mk result after =>
        rw [(runWith_of_hasInput accepted hasInput ran).1] at escapes
        obtain ⟨reason, isRefusal, rfl⟩ := exists_of_refusal? escapes
        exact ⟨hasInput, refused_of_escaped isOfSystem isRefusal ran⟩
    · rw [runWith_of_not_hasInput accepted hasInput] at escapes
      cases escapes
  · rintro ⟨hasInput, refused⟩
    obtain ⟨after, stops⟩ := deliver_of_refused refused
    rw [(runWith_of_hasInput accepted hasInput stops).1]
    rfl

/-- The output is to go to a file in a directory that is not there. -/
def lostInvocation : Invocation where
  arguments := [Text.of "-o", Text.of "no/o.txt"]
  files := .bare
  input := .of "x"
  atTerminal := false
  debugging := false

/-- What the arguments of the invocation with a lost output ask for. -/
def lostOptions : Options :=
  { Options.default with output := .of "no/o.txt" }

/-- The directory is missing. -/
def lostError : FileError :=
  ⟨.missing, .ofText (.of "no/o.txt")⟩

/-- The run with a lost output does not come back. -/
theorem ending_lost : (run lostInvocation).ending = .escape (.unusable lostError) := by
  cbv

/-- The refusal that escapes is the one to take the lost output. -/
theorem ending_of_refused_lost :
    Options.ofArguments lostInvocation.arguments = .ok lostOptions ∧ lostError.IsOfSystem ∧
      (run lostInvocation).ending.refusal? = some lostError ∧
      Refused .standard lostInvocation lostOptions .output lostError := by
  have accepted : Options.ofArguments lostInvocation.arguments = .ok lostOptions := by
    cbv
  have isOfSystem : lostError.IsOfSystem := ⟨by decide, by decide⟩
  have escapes : (run lostInvocation).ending.refusal? = some lostError :=
    congrArg Ending.refusal? ending_lost
  obtain ⟨-, iff⟩ := ending_of_refused .standard lostInvocation accepted lostError isOfSystem
  exact ⟨accepted, isOfSystem, escapes, (iff.mp escapes).2⟩

/-- The file system refuses to take the lost output, and the run does not report it. -/
theorem ending_lost_ne_failure :
    lostInvocation.files.write (.ofText lostOptions.output) lostInvocation.input =
        .error lostError ∧
      ∀ report, (run lostInvocation).ending ≠ .failure report := by
  refine ⟨by cbv, fun report reported => ?_⟩
  cases ending_lost.symm.trans reported

end Command

end Stencil
