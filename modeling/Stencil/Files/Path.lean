import Stencil.Text.Basic

/-!
# Paths

A path is a sequence of components, read from a text with slashes between them. Empty components
and those that name the directory itself say nothing and are dropped; a component that names the
parent directory is kept, since what it leads to depends on the files. Slashes at the start name the
root; exactly two of them are kept apart from any other number, since a system may treat them
differently.
-/

namespace Stencil

/-- A path by its components, from the working directory or from a root. -/
structure Path where
  /-- The slashes that name the root: none for a path from the working directory. -/
  root : Text
  components : List Text
  deriving DecidableEq, Repr

namespace Path

/-- The slashes that name the root at which a text starts. -/
def rootOf (text : Text) : Text :=
  let slashes := text.takeWhile (· = .char '/')
  if slashes.length ≤ 2 then slashes else .of "/"

/-- The path that a text names. -/
def ofText (text : Text) : Path where
  root := rootOf text
  components := (Text.splitAt (.char '/') text).filter fun component =>
    component ≠ [] && component ≠ .of "."

/-- The text that names a path; the path without components is the directory itself. -/
def text (path : Path) : Text :=
  let text := path.root ++ Text.joinWith (.of "/") path.components
  if text = [] then .of "." else text

/-- A path followed from the end of another one. -/
def join (path further : Path) : Path :=
  if further.root ≠ [] then further
  else { path with components := path.components ++ further.components }

/-- What follows the last point in the last component, with the point, unless that point is the
first or the last character. -/
def extension (path : Path) : Text :=
  match path.components.getLast? with
  | none => []
  | some name =>
    let after := name.reverse.takeWhile (· ≠ .char '.')
    let before := name.length - after.length - 1
    if after = [] ∨ before = 0 ∨ after.length = name.length then []
    else .char '.' :: after.reverse

/-- The text of one file name put behind another with a slash, unless the second one starts at the
root or the first one has nothing before the slash or ends in one already. -/
def appendName (name further : Text) : Text :=
  if further.head? = some (.char '/') then further
  else if name = [] ∨ name.getLast? = some (.char '/') then name ++ further
  else name ++ .char '/' :: further

end Path

end Stencil
