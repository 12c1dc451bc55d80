import Stencil.Command.Options
import Stencil.DataFile
import Stencil.Json.Writer
import Stencil.View.Call

/-!
# Running the command

The command puts data together, from data files and from the front matter of its documents, and
renders the documents with them. Of several values for one key the last one counts, and the front
matter comes last. What goes wrong up to the rendering is reported; what goes wrong afterwards, when
the output is written, is not. Neither are texts that cannot be decoded or encoded, paths that no
system knows, and data that are well-formed but out of range or not to be written.

A run is a function of what it is given: its arguments, the files, the standard input. Its outcome
holds everything that the run leaves. Data are read as their formats say (`run`), or by any other
readers (`runWith`).
-/

namespace Stencil.Command

/-- What a run is given. -/
structure Invocation where
  arguments : List Text
  files : FileTree
  input : Text
  /-- Whether the standard input is a terminal. -/
  atTerminal : Bool
  /-- Whether the environment asks for all log lines. -/
  debugging : Bool

/-- A failure that is not reported but ends the run at once. -/
inductive Escape where
  /-- A path is known to no system, or the output cannot be written to it. -/
  | unusable (error : FileError)
  /-- A data file is asked for, but not named. -/
  | nameless
  /-- A file is not UTF-8. -/
  | undecodable
  /-- A text that is to be written cannot be, since it has a surrogate in it. -/
  | unencodable
  /-- A number, a date or a character in the data is out of range. -/
  | outOfRange (error : DataError)
  /-- The data have a key that cannot be written. -/
  | unwritableKey
  /-- The template fails for another reason than being malformed. -/
  | rendering (failure : Failure)
  deriving DecidableEq, Repr

/-- How a run ends. -/
inductive Ending where
  /-- With a text for the standard output. -/
  | success (output : Text)
  /-- With a report of what went wrong. -/
  | failure (report : Text)
  /-- With an account of the usage, since there is nothing to do. -/
  | idle
  /-- With an account of the usage, since it was asked for. -/
  | help
  /-- With an account of the usage, since the arguments make no sense. -/
  | misuse
  | escape (failure : Escape)
  deriving DecidableEq, Repr

/-- What a run leaves. -/
structure Outcome where
  ending : Ending
  /-- The log lines that the run shows. -/
  log : List LogEvent
  files : FileTree

/-- What the standard output holds, but for accounts of the usage. -/
def Outcome.standardOutput (outcome : Outcome) : Text :=
  match outcome.ending with
  | .success output => output
  | _ => []

/-- What the standard error holds, but for accounts of the usage. -/
def Outcome.standardError (outcome : Outcome) : Text :=
  outcome.log.flatMap (fun event => event.line ++ Text.of "\n") ++
    match outcome.ending with
    | .failure report => Text.of "error: " ++ report ++ Text.of "\n"
    | _ => []

/-- What a run works on. -/
structure Work where
  files : FileTree
  /-- What the standard input still holds. -/
  input : Text
  /-- The log lines so far, the latest first. -/
  log : List LogEvent

/-- Why a run does not succeed. -/
inductive Stop where
  | reported (report : Text)
  | escaped (failure : Escape)

/-- What a run begins with. -/
def Invocation.work (invocation : Invocation) : Work :=
  ⟨invocation.files, invocation.input, []⟩

/-- How a run ends by what its steps come to. -/
def Ending.of : Except Stop Text → Ending
  | .ok output => .success output
  | .error (.reported message) => .failure message
  | .error (.escaped reason) => .escape reason

/-- A step of a run. -/
abbrev Task := ExceptT Stop (StateM Work)

/-- Adds a log line. -/
def note (event : LogEvent) : Task Unit :=
  modify fun work => { work with log := event :: work.log }

/-- What comes of data that are refused. -/
def stopOfDataError : DataError → Stop
  | .notMapping source typeName => .reported (DataError.notMappingText source typeName)
  | .json error =>
    if error.cause = .numeralTooLong then .escaped (.outOfRange (.json error))
    else .reported error.message
  | .yaml .malformed => .reported (Text.of "malformed YAML")
  | .yaml error => .escaped (.outOfRange (.yaml error))

/-- What comes of a path that the file system refuses. -/
def stopOfFileError (error : FileError) : Stop :=
  if error.cause = .holdsNull ∨ error.cause = .unencodable then .escaped (.unusable error)
  else .reported error.message

/-- What comes of a file that cannot be read. -/
def stopOfReadError : ReadError → Stop
  | .refused error => stopOfFileError error
  | .undecodable => .escaped .undecodable

/-- What comes of a data file that cannot be used. -/
def stopOfLoadError : DataFile.Error → Stop
  | .unreadable error => stopOfReadError error
  | .refused error => stopOfDataError error

/-- What comes of a rendering that fails. -/
def stopOfFailure : Failure → Stop
  | .malformed error => .reported error.message
  | .unreadable error => stopOfReadError error
  | failure => .escaped (.rendering failure)

/-- Goes on with a result, or stops. -/
def orStop {α ε : Type} (stop : ε → Stop) : Except ε α → Task α
  | .ok result => pure result
  | .error error => throw (stop error)

/-- The data of one file added to data already there. -/
def addDataFile (readers : Readers) (data : Record) (name : Operand) : Task Record := do
  let some text := name | throw (.escaped .nameless)
  let path := Path.ofText text
  let further ← orStop stopOfLoadError (DataFile.loadWith readers (← get).files path)
  note (.dataLoaded path.text)
  return data.putAll further

/-- The text of one document. A hyphen stands for the standard input, which is empty when it is read
again. -/
def readDocument (name : Text) : Task Text := do
  let work ← get
  if name = .of "-" then
    set { work with input := [] }
    return FileTree.unifyBreaks work.input
  else orStop stopOfReadError (work.files.read (Path.ofText name))

/-- The documents of a run: without any named the standard input is the only one. -/
def Options.documents (options : Options) : List Text :=
  if options.files = [] then [.of "-"] else options.files

/-- The texts of all documents, joined. -/
def readDocuments (options : Options) : Task Text := do
  return (← options.documents.mapM readDocument).flatten

/-- The data and the template of a run. -/
def gather (readers : Readers) (options : Options) : Task (Record × Text) := do
  let loaded ← options.dataFiles.foldlM (addDataFile readers) []
  let (frontMatter, template) ← orStop stopOfDataError
    (FrontMatter.readWith readers (← readDocuments options))
  match frontMatter with
  | none => return (loaded, template)
  | some record => do
    note (.frontMatterUsed record.length)
    return (loaded.putAll record, template)

/-- Writes a text to a file. What cannot be encoded leaves the file empty. -/
def writeFile (stop : FileError → Stop) (path : Path) (text : Text) : Task Unit := do
  let work ← get
  let files ← orStop stop (work.files.write path text)
  set { work with files := files }
  if text.toString?.isNone then throw (.escaped .unencodable)

/-- Writes the data to a file, if one is named. -/
def writeData (name : Text) (data : Record) : Task Unit :=
  if name = [] then pure ()
  else match Json.write? 0 (.mapping data) with
    | none => throw (.escaped .unwritableKey)
    | some text => writeFile stopOfFileError (Path.ofText name) text

/-- The value of a field that an option sets; without a value it is an empty list. -/
def fieldOf : Operand → Value
  | some text => .text text
  | none => .list []

/-- The view that renders documents: it finds its partials in a directory by their extension. -/
def documentBlueprint (partials extension : Operand) : View.Blueprint where
  className := Text.of "mustache.Mustache"
  attributes := []
  methods := []
  fields := [(Text.of "template_path", fieldOf partials),
    (Text.of "template_extension", fieldOf extension)]
  ownCache := false

/-- Renders a template against data. -/
def render (partials extension : Operand) (template : Text) (data : Record) : Task Text := do
  let work ← get
  let (value, store) := (Datum.mapping data).toValue (.empty .unbounded)
  let (result, session) :=
    Render.view (Render.generate Render.depthLimit) (View.of (documentBlueprint partials extension))
      (.text template) value .null (.start store work.files)
  set { work with log := session.log ++ work.log }
  orStop stopOfFailure result

/-- The text that a run is to output. -/
def produce (readers : Readers) (options : Options) : Task Text := do
  let (data, template) ← gather readers options
  writeData options.dataOutput data
  render options.partials options.extension template data

/-- Puts the output where it belongs, and says so if that is a file. -/
def deliver (name output : Text) : Task Text := do
  if name = [] then return output
  let path := Path.ofText name
  writeFile (fun error => .escaped (.unusable error)) path output
  return Text.of "Wrote: " ++ path.text ++ Text.of "\n"

/-- Whether a run shows a log line. -/
def shows (debugging : Bool) (verbosity : Nat) (event : LogEvent) : Bool :=
  match event.severity with
  | .debug => debugging || 1 < verbosity
  | .info => debugging || 0 < verbosity

/-- Runs the command with readers of data. -/
def runWith (readers : Readers) (invocation : Invocation) : Outcome :=
  match Options.ofArguments invocation.arguments with
  | .error .helpWanted => ⟨.help, [], invocation.files⟩
  | .error .misused => ⟨.misuse, [], invocation.files⟩
  | .ok options =>
    if options.files = [] ∧ invocation.atTerminal then ⟨.idle, [], invocation.files⟩
    else
      let (result, work) : Except Stop Text × Work :=
        (produce readers options >>= deliver options.output) invocation.work
      let log := work.log.reverse.filter (shows invocation.debugging options.verbosity)
      ⟨.of result, log, work.files⟩

/-- Runs the command. -/
def run (invocation : Invocation) : Outcome :=
  runWith .standard invocation

end Stencil.Command
