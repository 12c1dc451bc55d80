import Mathlib.Data.List.Forall2
import Stencil.Command.Run
import Stencil.Proofs.Computation

/-!
# What a run gathers

A run loads data files, reads documents and takes the front matter off them. What these are to the
run is said here without regard to how the run comes by them: `Sources.AreOf` holds of what files
and the standard input provide. From there one lemma for each stage leads to what the stage does.
That nothing else can become of it, but that it stops the run, is what a stage `Yields`: stages that
follow each other yield what the last one yields (`Yields.bind`).
-/

namespace Stencil

/-- The refusal is one of the file system: it knows what the path is, but does not have it, or does
not have it as what it is used for. -/
def FileError.IsOfSystem (error : FileError) : Prop :=
  error.cause ≠ .holdsNull ∧ error.cause ≠ .unencodable

namespace Command

variable {readers : Readers} {files : FileTree} {options : Options} {work after : Work}

/-! ## What a run works with -/

/-- A data file that is asked for holds a mapping. -/
def Loads (readers : Readers) (files : FileTree) (operand : Operand) (record : Record) : Prop :=
  ∃ name, operand = some name ∧ DataFile.loadWith readers files (Path.ofText name) = .ok record

/-- Documents hold texts, given what the standard input holds. What was read from there once is not
there again. -/
inductive AreRead (files : FileTree) : Text → List Text → List Text → Prop where
  | none {input : Text} : AreRead files input [] []
  | standard {input : Text} {names texts : List Text} (others : AreRead files [] names texts) :
      AreRead files input (Text.of "-" :: names) (FileTree.unifyBreaks input :: texts)
  | file {input name text : Text} {names texts : List Text} (isFile : name ≠ Text.of "-")
      (isRead : files.read (Path.ofText name) = .ok text)
      (others : AreRead files input names texts) :
      AreRead files input (name :: names) (text :: texts)

/-- What a run puts together. -/
structure Sources where
  /-- The mappings of the data files. -/
  records : List Record
  frontMatter : Option Record
  template : Text

/-- The data of a run: those of one data file after the other, and then those of the front
matter. -/
def Sources.data (sources : Sources) : Record :=
  (sources.records ++ sources.frontMatter.toList).foldl Entries.putAll []

/-- What files and the standard input provide for options: each data file its mapping, and all
documents together the front matter and the template. -/
structure Sources.AreOf (sources : Sources) (readers : Readers) (options : Options)
    (files : FileTree) (input : Text) : Prop where
  loaded : List.Forall₂ (Loads readers files) options.dataFiles sources.records
  split : ∃ texts, AreRead files input options.documents texts ∧
    FrontMatter.readWith readers texts.flatten = .ok (sources.frontMatter, sources.template)

/-- The refusal that a failure consists of, where a run ends at once because of a path. -/
def Escape.refusal? : Escape → Option FileError
  | .unusable error => some error
  | .rendering (.unreadable (.refused error)) => some error
  | _ => none

/-- No refusal of the file system makes a run end at once in this way. -/
def Stop.Answers : Stop → Prop
  | .reported _ => True
  | .escaped reason => ∀ error, reason.refusal? = some error → ¬ error.IsOfSystem

/-- A stage leaves the files as they are. It yields what is claimed, or it stops the run. -/
def Yields {α : Type} (stage : Task α) (work : Work) (claim : α → Work → Prop) : Prop :=
  match stage work with
  | (.ok result, after) => after.files = work.files ∧ claim result after
  | (.error stop, after) => after.files = work.files ∧ stop.Answers

section Yields

variable {α β : Type} {stage : Task α} {claim : α → Work → Prop}

/-- A stage that is known to succeed yields what is true of its result. -/
theorem yields_of_eq {result : α} (ran : stage work = (.ok result, after))
    (same : after.files = work.files) (holds : claim result after) : Yields stage work claim := by
  rw [Yields, ran]
  exact ⟨same, holds⟩

/-- A stage that is known to fail may fail so. -/
theorem yields_of_error {stop : Stop} (ran : stage work = (.error stop, work))
    (answers : stop.Answers) : Yields stage work claim := by
  rw [Yields, ran]
  exact ⟨rfl, answers⟩

/-- Where a stage succeeds, what it was to yield is true. -/
theorem Yields.of_ok {result : α} (yields : Yields stage work claim)
    (ran : stage work = (.ok result, after)) : after.files = work.files ∧ claim result after := by
  rw [Yields, ran] at yields
  exact yields

/-- Where a stage fails, it has not touched the files. -/
theorem Yields.of_error {stop : Stop} (yields : Yields stage work claim)
    (ran : stage work = (.error stop, after)) : after.files = work.files ∧ stop.Answers := by
  rw [Yields, ran] at yields
  exact yields

/-- Two stages yield what the second one yields after the first one. -/
theorem Yields.bind {next : α → Task β} {further : β → Work → Prop}
    (first : Yields stage work claim)
    (continues : ∀ result between, between.files = work.files → claim result between →
      Yields (next result) between further) : Yields (stage >>= next) work further := by
  unfold Yields at first
  cases outcome : stage work with
  | mk result between =>
    rw [outcome] at first
    cases result with
    | ok value =>
      have second := continues value between first.1 first.2
      unfold Yields at second ⊢
      rw [bind_of_ok outcome]
      rw [first.1] at second
      exact second
    | error stop =>
      rw [Yields, bind_of_error outcome]
      exact first

/-- A result that is at hand is yielded as it is. -/
theorem yields_orStop {ε : Type} {stop : ε → Stop} (answers : ∀ error, (stop error).Answers)
    (outcome : Except ε α) (work : Work) :
    Yields (orStop stop outcome) work fun result after => after = work ∧ outcome = .ok result := by
  cases outcome with
  | ok result => exact yields_of_eq rfl rfl ⟨rfl, rfl⟩
  | error error => exact yields_of_error rfl (answers error)

/-- What follows from a claim is yielded as well. -/
theorem Yields.imp {weaker : α → Work → Prop} (yields : Yields stage work claim)
    (follows : ∀ result after, claim result after → weaker result after) :
    Yields stage work weaker := by
  unfold Yields at yields ⊢
  split at yields
  · exact ⟨yields.1, follows _ _ yields.2⟩
  · exact yields

end Yields

/-- A refusal of the file system is reported where it is watched for. -/
theorem stopOfFileError_of_isOfSystem {error : FileError} (isOfSystem : error.IsOfSystem) :
    stopOfFileError error = .reported error.message := by
  rw [stopOfFileError, if_neg]
  rintro (holdsNull | unencodable)
  · exact isOfSystem.1 holdsNull
  · exact isOfSystem.2 unencodable

/-- Where paths are watched, no refusal of the file system escapes. -/
theorem answers_stopOfFileError (error : FileError) : (stopOfFileError error).Answers := by
  by_cases isOfSystem : error.IsOfSystem
  · rw [stopOfFileError_of_isOfSystem isOfSystem]
    trivial
  · unfold stopOfFileError
    split
    · rintro _ ⟨⟩
      exact isOfSystem
    · trivial

/-- A file that cannot be read is reported, or its content is no text. -/
theorem answers_stopOfReadError (error : ReadError) : (stopOfReadError error).Answers := by
  cases error with
  | refused error => exact answers_stopOfFileError error
  | undecodable => nofun

/-- Data that are refused are no matter of the file system. -/
theorem answers_stopOfDataError (error : DataError) : (stopOfDataError error).Answers := by
  unfold stopOfDataError
  repeat' split
  all_goals first | trivial | nofun

/-- A data file that cannot be used is reported, or it is no matter of the file system. -/
theorem answers_stopOfLoadError (error : DataFile.Error) : (stopOfLoadError error).Answers := by
  cases error with
  | unreadable error => exact answers_stopOfReadError error
  | refused error => exact answers_stopOfDataError error

/-- A rendering fails for a file that is reported, or for what is no matter of the file system. -/
theorem answers_stopOfFailure (failure : Failure) : (stopOfFailure failure).Answers := by
  cases failure with
  | malformed error => trivial
  | unreadable error => exact answers_stopOfReadError error
  | _ => nofun

/-! ## Data files -/

/-- A data file that can be used is added. -/
theorem addDataFile_of_ok {name : Text} {record : Record} (data : Record)
    (loads : DataFile.loadWith readers work.files (Path.ofText name) = .ok record) :
    addDataFile readers data (some name) work = (.ok (data.putAll record),
      { work with log := .dataLoaded (Path.ofText name).text :: work.log }) := by
  unfold addDataFile
  dsimp only
  rw [bind_of_get, loads]
  rfl

/-- A data file that cannot be used stops the run. -/
theorem addDataFile_of_error {name : Text} {error : DataFile.Error} (data : Record)
    (refused : DataFile.loadWith readers work.files (Path.ofText name) = .error error) :
    addDataFile readers data (some name) work = (.error (stopOfLoadError error), work) := by
  unfold addDataFile
  dsimp only
  rw [bind_of_get, refused]
  rfl

/-- Adding a data file puts its mapping to the data. -/
theorem yields_addDataFile (operand : Operand) (data : Record) (work : Work) :
    Yields (addDataFile readers data operand) work fun merged after =>
      after.input = work.input ∧
        ∃ record, Loads readers work.files operand record ∧ merged = data.putAll record := by
  cases operand with
  | none => exact yields_of_error rfl nofun
  | some name =>
    cases outcome : DataFile.loadWith readers work.files (Path.ofText name) with
    | ok record =>
      exact yields_of_eq (addDataFile_of_ok data outcome) rfl
        ⟨rfl, record, ⟨name, rfl, outcome⟩, rfl⟩
    | error error =>
      exact yields_of_error (addDataFile_of_error data outcome) (answers_stopOfLoadError error)

/-- Data files that all can be used are put together. -/
theorem foldlM_addDataFile_of_loads {operands : List Operand} {records : List Record}
    (loads : List.Forall₂ (Loads readers files) operands records) (data : Record) (work : Work)
    (here : work.files = files) :
    ∃ log, operands.foldlM (addDataFile readers) data work =
      (.ok (records.foldl Entries.putAll data), { work with log := log }) := by
  -- A log line comes with each file, so what is left after one of them is not what was there.
  induction loads generalizing data work with
  | nil => exact ⟨work.log, rfl⟩
  | cons first _ inductionHypothesis =>
    obtain ⟨name, rfl, loads⟩ := first
    subst here
    rw [List.foldlM_cons, bind_of_ok (addDataFile_of_ok data loads)]
    exact inductionHypothesis _ _ rfl

/-- The first data file that cannot be used stops the run. -/
theorem foldlM_addDataFile_of_error {before : List Operand} {name : Text}
    {records : List Record} {error : DataFile.Error} (work : Work)
    (loads : List.Forall₂ (Loads readers work.files) before records)
    (refused : DataFile.loadWith readers work.files (Path.ofText name) = .error error)
    (behind : List Operand) (data : Record) :
    ∃ log, (before ++ some name :: behind).foldlM (addDataFile readers) data work =
      (.error (stopOfLoadError error), { work with log := log }) := by
  obtain ⟨log, loaded⟩ := foldlM_addDataFile_of_loads loads data work rfl
  have fails : addDataFile readers (records.foldl Entries.putAll data) (some name)
      { work with log := log } = (.error (stopOfLoadError error), { work with log := log }) :=
    addDataFile_of_error _ refused
  exact ⟨log, by rw [List.foldlM_append, bind_of_ok loaded, List.foldlM_cons, bind_of_error fails]⟩

/-- Data files are put together if all of them can be used. -/
theorem yields_foldlM_addDataFile (operands : List Operand) (data : Record) (work : Work) :
    Yields (operands.foldlM (addDataFile readers) data) work fun merged after =>
      after.input = work.input ∧ ∃ records,
        List.Forall₂ (Loads readers work.files) operands records ∧
          merged = records.foldl Entries.putAll data := by
  induction operands generalizing data work with
  | nil => exact yields_of_eq rfl rfl ⟨rfl, [], .nil, rfl⟩
  | cons operand operands inductionHypothesis =>
    rw [List.foldlM_cons]
    refine (yields_addDataFile operand data work).bind ?_
    rintro _ between here ⟨sameInput, record, loads, rfl⟩
    refine (inductionHypothesis (data.putAll record) between).imp ?_
    rintro merged after ⟨sameLater, records, loadsOthers, rfl⟩
    exact ⟨sameLater.trans sameInput, record :: records, .cons loads (here ▸ loadsOthers), rfl⟩

/-! ## Documents -/

/-- Reading the standard input empties it. -/
theorem readDocument_standard :
    readDocument (Text.of "-") work =
      (.ok (FileTree.unifyBreaks work.input), { work with input := [] }) := by
  unfold readDocument
  rw [bind_of_get, if_pos rfl]
  rfl

/-- A document that is a file is read or stops the run. -/
theorem readDocument_file {name : Text} (isFile : name ≠ Text.of "-") :
    readDocument name work = match work.files.read (Path.ofText name) with
      | .ok text => (.ok text, work)
      | .error error => (.error (stopOfReadError error), work) := by
  unfold readDocument
  rw [bind_of_get, if_neg isFile]
  cases work.files.read (Path.ofText name) <;> rfl

/-- Reading a document leaves the files as they are. -/
theorem yields_readDocument_file {name : Text} (isFile : name ≠ Text.of "-") (work : Work) :
    Yields (readDocument name) work fun text after =>
      after = work ∧ work.files.read (Path.ofText name) = .ok text := by
  have outcome : readDocument name work = _ := readDocument_file isFile
  split at outcome
  · rename_i text isRead
    exact yields_of_eq outcome rfl ⟨rfl, isRead⟩
  · rename_i error _
    exact yields_of_error outcome (answers_stopOfReadError error)

/-- Documents that all can be read are read. -/
theorem mapM_readDocument_of_areRead {input : Text} {names texts : List Text}
    (areRead : AreRead files input names texts) (log : List LogEvent) :
    ∃ rest, names.mapM readDocument ⟨files, input, log⟩ = (.ok texts, ⟨files, rest, log⟩) := by
  induction areRead with
  | @none input => exact ⟨input, rfl⟩
  | standard _ inductionHypothesis =>
    obtain ⟨rest, others⟩ := inductionHypothesis
    exact ⟨rest, by rw [List.mapM_cons, bind_of_ok readDocument_standard, bind_of_ok others]; rfl⟩
  | @file input name text names texts isFile isRead _ inductionHypothesis =>
    obtain ⟨rest, others⟩ := inductionHypothesis
    have first : readDocument name ⟨files, input, log⟩ = (.ok text, ⟨files, input, log⟩) := by
      rw [readDocument_file isFile, isRead]
    exact ⟨rest, by rw [List.mapM_cons, bind_of_ok first, bind_of_ok others]; rfl⟩

/-- The first document that cannot be read stops the run. -/
theorem mapM_readDocument_of_error {input name : Text} {before texts : List Text}
    {error : ReadError} (areRead : AreRead files input before texts) (isFile : name ≠ Text.of "-")
    (refused : files.read (Path.ofText name) = .error error) (behind : List Text)
    (log : List LogEvent) :
    ∃ rest, (before ++ name :: behind).mapM readDocument ⟨files, input, log⟩ =
      (.error (stopOfReadError error), ⟨files, rest, log⟩) := by
  obtain ⟨rest, isRead⟩ := mapM_readDocument_of_areRead areRead log
  have fails : readDocument name ⟨files, rest, log⟩ =
      (.error (stopOfReadError error), ⟨files, rest, log⟩) := by
    rw [readDocument_file isFile, refused]
  refine ⟨rest, ?_⟩
  rw [List.mapM_append, bind_of_ok isRead, List.mapM_cons, bind_of_error (bind_of_error fails)]

/-- Documents are read if all of them can be read. -/
theorem yields_mapM_readDocument (names : List Text) (work : Work) :
    Yields (names.mapM readDocument) work fun texts _ =>
      AreRead work.files work.input names texts := by
  induction names generalizing work with
  | nil => exact yields_of_eq rfl rfl .none
  | cons name names inductionHypothesis =>
    rw [List.mapM_cons]
    by_cases isStandard : name = Text.of "-"
    · subst isStandard
      have first : Yields (readDocument (Text.of "-")) work fun text after =>
          text = FileTree.unifyBreaks work.input ∧ after.input = [] :=
        yields_of_eq readDocument_standard rfl ⟨rfl, rfl⟩
      refine first.bind ?_
      rintro _ between here ⟨rfl, isEmpty⟩
      refine (inductionHypothesis between).bind fun texts after _ others => ?_
      rw [here, isEmpty] at others
      exact yields_of_eq rfl rfl (.standard others)
    · refine (yields_readDocument_file isStandard work).bind ?_
      rintro text _ - ⟨rfl, isRead⟩
      refine (inductionHypothesis _).bind fun texts after _ others => ?_
      exact yields_of_eq rfl rfl (.file isStandard isRead others)

/-- The texts of all documents are joined. -/
theorem yields_readDocuments (work : Work) :
    Yields (readDocuments options) work fun document _ =>
      ∃ texts, AreRead work.files work.input options.documents texts ∧ document = texts.flatten :=
  (yields_mapM_readDocument options.documents work).bind fun texts _ _ areRead =>
    yields_of_eq rfl rfl ⟨texts, areRead, rfl⟩

/-! ## All that is read -/

/-- A run gathers what is provided for it. -/
theorem gather_of_areOf {sources : Sources} (work : Work)
    (areOf : sources.AreOf readers options work.files work.input) :
    ∃ input log, gather readers options work =
      (.ok (sources.data, sources.template), { work with input := input, log := log }) := by
  obtain ⟨records, frontMatter, template⟩ := sources
  obtain ⟨loaded, texts, areRead, split⟩ := areOf
  obtain ⟨log, hasLoaded⟩ := foldlM_addDataFile_of_loads loaded [] work rfl
  obtain ⟨input, hasRead⟩ := mapM_readDocument_of_areRead areRead log
  have documents : readDocuments options { work with log := log } =
      (.ok texts.flatten, { work with input := input, log := log }) :=
    bind_of_ok hasRead
  unfold gather
  rw [bind_of_ok hasLoaded, bind_of_ok documents]
  dsimp only at split
  rw [split]
  cases frontMatter with
  | none => exact ⟨input, log, by simp [Sources.data]; rfl⟩
  | some record => exact ⟨input, _, by simp [Sources.data]; rfl⟩

/-- What a run gathers is what is provided for it. -/
theorem yields_gather (readers : Readers) (options : Options) (work : Work) :
    Yields (gather readers options) work fun gathered _ => ∃ sources : Sources,
      sources.AreOf readers options work.files work.input ∧
        gathered = (sources.data, sources.template) := by
  unfold gather
  refine (yields_foldlM_addDataFile options.dataFiles [] work).bind ?_
  rintro _ between here ⟨sameInput, records, loaded, rfl⟩
  refine (yields_readDocuments between).bind ?_
  rintro _ later - ⟨texts, areRead, rfl⟩
  rw [here, sameInput] at areRead
  refine (yields_orStop answers_stopOfDataError _ later).bind ?_
  rintro ⟨frontMatter, template⟩ _ - ⟨rfl, split⟩
  have areOf : (Sources.mk records frontMatter template).AreOf readers options work.files
      work.input :=
    ⟨loaded, texts, areRead, split⟩
  cases frontMatter with
  | none => exact yields_of_eq rfl rfl ⟨_, areOf, by simp [Sources.data]⟩
  | some record => exact yields_of_eq rfl rfl ⟨_, areOf, by simp [Sources.data]⟩

end Command

end Stencil
