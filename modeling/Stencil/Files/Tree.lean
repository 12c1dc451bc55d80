import Stencil.Entries
import Stencil.Files.Place
import Stencil.Text.Quoted

/-!
# Files

The files that a run can read and write are a value: what stands at places. Where nothing is known
to stand nothing stands, but for the directories that places are named from.

Text is stored as UTF-8. On reading, every form of line break becomes a line feed; on writing,
nothing is changed.
-/

namespace Stencil

/-- What stands at a place. -/
inductive FileEntry where
  | file (content : ByteArray)
  | directory
  /-- It is always empty, whatever is written to it. -/
  | sink

/-- Files and directories by their places. The directories that places are named from are not
listed. -/
structure FileTree where
  entries : Entries Place FileEntry

/-- Why the file system refuses a path. -/
inductive FileError.Cause where
  | missing
  | isDirectory
  | notDirectory
  | nameTooLong
  /-- No path has a null character in it. -/
  | holdsNull
  /-- No octets stand for the path. -/
  | unencodable
  deriving DecidableEq, Repr

/-- A path that the file system refuses. -/
structure FileError where
  cause : FileError.Cause
  path : Path
  deriving DecidableEq, Repr

/-- The report: the number and the words of the cause, and the quoted path. A path that no system
knows has no number. -/
def FileError.message (error : FileError) : Text :=
  let words := match error.cause with
    | .missing => Text.of "[Errno 2] No such file or directory: "
    | .isDirectory => Text.of "[Errno 21] Is a directory: "
    | .notDirectory => Text.of "[Errno 20] Not a directory: "
    | .nameTooLong => Text.of "[Errno 36] File name too long: "
    | .holdsNull => Text.of "Null character in file name: "
    | .unencodable => Text.of "No encoding of file name: "
  words ++ Text.Quoted.quote error.path.text

/-- Why a text cannot be read from a file. -/
inductive ReadError where
  | refused (error : FileError)
  /-- The content is not UTF-8. -/
  | undecodable
  deriving DecidableEq, Repr

namespace FileTree

/-- The most octets that the name of a file can have. -/
def nameLimit : Nat := 255

/-- The most octets that a path can have. -/
def pathLimit : Nat := 4095

/-- The name that a string stands for. -/
def nameOf (string : String) : FileName :=
  string.toUTF8.toList

/-- The directories under the root of every system. -/
def systemDirectories : List FileName :=
  ["bin", "boot", "dev", "etc", "home", "lib", "media", "mnt", "opt", "proc", "root", "run", "sbin",
    "srv", "sys", "tmp", "usr", "var"].map nameOf

/-- The tree with nothing but what every system has. -/
def bare : FileTree :=
  ⟨systemDirectories.map (fun name => (.rooted [name], .directory)) ++
    [(.rooted [nameOf "dev", nameOf "null"], .sink)]⟩

/-- The names that a path consists of, unless no system knows such a path. -/
def namesOf (path : Path) : Except FileError.Cause (List FileName) :=
  match FileName.ofText? path.text, path.components.mapM FileName.ofText? with
  | some whole, some names =>
    if whole.contains 0 then .error .holdsNull
    else if pathLimit < whole.length then .error .nameTooLong
    else .ok names
  | _, _ => .error .unencodable

/-- What stands at a place. -/
def entryAt? (tree : FileTree) (place : Place) : Option FileEntry :=
  if place.names = [] then some .directory else tree.entries.lookup place

/-- The place one name further. -/
def step (tree : FileTree) (place : Place) (name : FileName) : Except FileError.Cause Place :=
  match tree.entryAt? place with
  | none => .error .missing
  | some (.file _) | some .sink => .error .notDirectory
  | some .directory =>
    if nameLimit < name.length then .error .nameTooLong
    else if name = nameOf ".." then .ok place.parent
    else .ok (place.child name)

/-- The place that a path leads to; there need not be anything at it. -/
def locate (tree : FileTree) (path : Path) : Except FileError Place :=
  (namesOf path >>= (·.foldlM tree.step (.startOf path))).mapError fun cause => ⟨cause, path⟩

/-- What stands at the end of a path. -/
def find (tree : FileTree) (path : Path) : Except FileError FileEntry :=
  match tree.locate path with
  | .error error => .error error
  | .ok place => match tree.entryAt? place with
    | none => .error ⟨.missing, path⟩
    | some entry => .ok entry

/-- Text with every form of line break turned into a line feed. -/
def unifyBreaks : Text → Text
  | [] => []
  | .char '\r' :: .char '\n' :: rest => .char '\n' :: unifyBreaks rest
  | .char '\r' :: rest => .char '\n' :: unifyBreaks rest
  | point :: rest => point :: unifyBreaks rest

/-- The text that octets stand for. -/
def decoded (content : ByteArray) : Except ReadError Text :=
  match String.fromUTF8? content with
  | none => .error .undecodable
  | some text => .ok (unifyBreaks (.of text))

/-- The text of the file at a path. -/
def read (tree : FileTree) (path : Path) : Except ReadError Text :=
  match tree.find path with
  | .error error => .error (.refused error)
  | .ok .directory => .error (.refused ⟨.isDirectory, path⟩)
  | .ok .sink => .ok []
  | .ok (.file content) => decoded content

/-- The text of the file at a path, if there is a file. Only a name that is too long leaves open
whether there is one. -/
def readIfThere (tree : FileTree) (path : Path) : Except ReadError (Option Text) :=
  match tree.find path with
  | .ok (.file content) => (decoded content).map some
  | .ok _ => .ok none
  | .error error => if error.cause = .nameTooLong then .error (.refused error) else .ok none

/-- The octets of a text as UTF-8; a text that has none leaves a file empty. -/
def encoded (text : Text) : ByteArray :=
  match text.toString? with
  | some string => string.toUTF8
  | none => .empty

/-- The tree after a text was written to the file at a path, which is created if need be. -/
def write (tree : FileTree) (path : Path) (text : Text) : Except FileError FileTree :=
  match tree.locate path with
  | .error error => .error error
  | .ok place => match tree.entryAt? place with
    | some .directory => .error ⟨.isDirectory, path⟩
    | some .sink => .ok tree
    | _ => .ok ⟨tree.entries.put place (.file (encoded text))⟩

/-- The tree with an entry at a place, and with all directories that lead there. -/
def add (tree : FileTree) (place : Place) (entry : FileEntry) : FileTree :=
  let parents := place.ancestors.filter fun ancestor => (tree.entryAt? ancestor).isNone
  ⟨Entries.put (parents.foldl (fun entries parent => entries.put parent .directory) tree.entries)
    place entry⟩

end FileTree

end Stencil
