import Stencil.Files.Tree
import Stencil.FrontMatter

/-!
# Data files

A data file holds a mapping. Its name says in which format: one that ends in `.json`, in letters of
either case, is JSON, every other one is YAML.
-/

namespace Stencil.DataFile

/-- Why a data file cannot be used. -/
inductive Error where
  | unreadable (error : ReadError)
  | refused (error : DataError)
  deriving DecidableEq, Repr

/-- Whether a file is JSON by its name. -/
def isJson (path : Path) : Bool :=
  path.extension.map CodePoint.toLower == Text.of ".json"

/-- What the text of a data file says. -/
def parseWith (readers : Readers) (path : Path) (text : Text) : Except DataError Record := do
  let data ←
    if isJson path then (readers.json text).mapError .json
    else (readers.yaml text).mapError .yaml
  data.asRecord (Text.of "Data file " ++ path.text)

/-- The mapping that a data file holds. -/
def loadWith (readers : Readers) (files : FileTree) (path : Path) : Except Error Record := do
  let text ← (files.read path).mapError .unreadable
  (parseWith readers path text).mapError .refused

/-- The mapping that a data file holds, read as its format says. -/
def load (files : FileTree) (path : Path) : Except Error Record :=
  loadWith .standard files path

end Stencil.DataFile
