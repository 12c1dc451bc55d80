import Stencil.Render.Lambda
import Stencil.View.Basic

/-!
# Making a view

Some names are reserved for a view's own methods, and a view with a field of such a name is not
made. A class can reserve other names: it stores a set of them, or anything that offers a function
which is given the fields and answers with the names that clash.
-/

namespace Stencil.View

/-- The names of a view's own methods. -/
def ownMethodNames : List Text :=
  ["partial", "render", "template", "template_file_name"].map Text.of

/-- Names in the order of their code points. -/
def sorted (names : List Text) : List Text :=
  names.mergeSort fun first second =>
    !List.lex second first fun former latter => decide (former.toNat < latter.toNat)

/-- A value that is a text. -/
def text? : Value → Option Text
  | .text content => some content
  | _ => none

/-- A key that is a text. -/
def keyText? : Key → Option Text
  | .text content => some content
  | _ => none

/-- The texts that a value consists of, if it consists of nothing else. A text consists of its code
points. -/
def texts? (store : Store) : Value → Option (List Text)
  | .text content => some (content.map ([·]))
  | .list items | .tuple items => items.mapM text?
  | .set address => (store.items address).mapM text?
  | .mapping address => (store.entries address).mapM fun entry => keyText? entry.1
  | .frozen entries => entries.mapM fun entry => keyText? entry.1
  | _ => none

/-- What a value that is no set answers when it is asked which names clash. -/
def answeredClashes (reserved : Value) : Render (List Text) := do
  match reserved.member? (← get).store (Text.of "intersection") with
  | none => throw .lacking
  | some (.computed _) => throw .unfit
  | some (.stored function) =>
    let answer ← Render.call function 1 [] Callback.none
    let store := (← get).store
    if answer.truth store then
      match texts? store answer with
      | some names => return names
      | none => throw .unfit
    else return []

/-- The names of fields that are reserved. -/
def clashes (blueprint : Blueprint) : Render (List Text) := do
  let names := blueprint.fields.map Prod.fst
  match (classMembers blueprint).lookup (Text.of "_reserved") with
  | none => return names.filter ownMethodNames.contains
  | some (.stored (.set address)) =>
    let reserved := ((← get).store.items address).filterMap text?
    return names.filter reserved.contains
  | some (.stored reserved) => answeredClashes reserved
  | some (.computed _) => throw .lacking

/-- The view of a blueprint. A view cannot be a field of itself, and its fields have no reserved
names. -/
def make (blueprint : Blueprint) : Render Value := do
  if blueprint.fields.any fun field => field.1 == Text.of "self" then throw .unfit
  match ← clashes blueprint with
  | [] => return View.of blueprint
  | names => throw (.clash (sorted names))

end Stencil.View
