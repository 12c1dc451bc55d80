import Stencil.Files.Name
import Stencil.Files.Path

/-!
# Places of files

A path is a way, a place is where it leads. Places are named from the working directory, from one of
the directories above it, or from the root. The directories above the working directory are known by
their distance and not by their names, so a way down from one of them is never a way back.
-/

namespace Stencil

/-- A directory that places are named from. -/
inductive Base where
  /-- The directory a number of levels above the working directory; with none it is that one. -/
  | above (levels : Nat)
  | root
  deriving DecidableEq, Repr

/-- A place by the names that lead there from a directory; none of them names a parent. -/
structure Place where
  base : Base
  names : List FileName
  deriving DecidableEq, Repr

namespace Place

/-- The place of names below the working directory. -/
def working (names : List FileName) : Place :=
  ⟨.above 0, names⟩

/-- The place of names below the root. -/
def rooted (names : List FileName) : Place :=
  ⟨.root, names⟩

/-- The directory that a path starts from. -/
def startOf (path : Path) : Place :=
  if path.root = [] then working [] else rooted []

/-- The directory around a place; the root is around itself. -/
def parent (place : Place) : Place :=
  match place.names, place.base with
  | [], .above levels => ⟨.above (levels + 1), []⟩
  | [], .root => place
  | _ :: _, _ => { place with names := place.names.dropLast }

/-- The place of a name in a directory. -/
def child (place : Place) (name : FileName) : Place :=
  { place with names := place.names ++ [name] }

/-- The directories on the way from the base to a place, without the place itself. -/
def ancestors (place : Place) : List Place :=
  (List.range place.names.length).map fun count =>
    { place with names := place.names.take count }

/-- A path that leads to a place. -/
def path (place : Place) : Path :=
  let components := place.names.map FileName.text
  match place.base with
  | .root => ⟨.of "/", components⟩
  | .above levels => ⟨[], List.replicate levels (.of "..") ++ components⟩

end Place

end Stencil
