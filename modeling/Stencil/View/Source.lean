import Stencil.Render.Lambda
import Stencil.View.Basic

/-!
# Where a view finds its texts

The template of a view is the file that the view names, or else the file that its class name leads
to: each part of the class name but the namespace is a directory or the name of the file, and the
extension is added. A partial is the file of its own name. A file that is not there is an empty
text.
-/

namespace Stencil.View

/-- The text of a template file. One that is not there is empty, which is worth a log line. -/
def fileText (path : Path) : Render Text := do
  match (← get).files.readIfThere path with
  | .ok (some text) => return text
  | .ok none => do
    Render.note (.fileMissing path.text)
    return []
  | .error error => throw (.unreadable error)

/-- What a view has under a name: a value that it stores, or a method as a function. -/
def stored (view : Value) (name : String) : Render Value :=
  Render.ownMember view (.of name)

/-- What a view stores under a name, if it is a text. -/
def storedText (view : Value) (name : String) : Render Text := do
  match ← stored view name with
  | .text content => return content
  | _ => throw .unfit

/-- What a call of a view's method yields. A class can put something else in the place of one of the
view's own methods. -/
def callMethod (view : Value) (name : String) (own : ViewMethod → Render Value) : Render Value := do
  match view.member? (← get).store (.of name) with
  | some (.computed (.returns value)) => return value
  | some (.computed (.raises message)) => throw (.raised message)
  | some (.computed (.own name)) => Render.ownMember view name
  | some (.computed (.ofView method)) => own method
  | some (.stored value) => Render.call value 0 [] Callback.none
  | _ => throw .unfit

/-- A name without the namespace it begins with. -/
def withoutNamespace (namespaceName name : Text) : Text :=
  (Text.after? (namespaceName ++ .of ".") name).getD name

/-- The file name that a class name leads to: its parts as a path. -/
def classPath (className : Text) : Text :=
  (Text.splitAt (.char '.') className).tail.foldl Path.appendName
    ((Text.splitAt (.char '.') className).headD [])

/-- The name of a view's template file. -/
def fileName (view : Value) (className : Text) : Render Value := do
  let file ← stored view "template_file"
  let store := (← get).store
  if file.truth store then return file
  let space ← stored view "template_namespace"
  let name ← if space.truth store then do
      match space with
      | .text content => pure (withoutNamespace content className)
      | _ => throw .unfit
    else pure className
  let extension ← storedText view "template_extension"
  return .text (classPath name ++ .of "." ++ extension)

/-- The text of a view's template. -/
def template (view : Value) : Render Text := do
  let directory ← storedText view "template_path"
  let name ← callMethod view "template_file_name" fun
    | .fileName className => fileName view className
    | _ => throw .unfit
  match name with
  | .text content => fileText ((Path.ofText directory).join (Path.ofText content))
  | _ => throw .unfit

/-- The text of an extension that a method computes. The method itself is shown, so that it is the
extension of no file. -/
def methodExtension : Text :=
  Text.of "<bound method>"

/-- The text of a partial of a view. -/
def partialText (view : Value) (name : Text) : Render Text := do
  let directory ← storedText view "template_path"
  let store := (← get).store
  let extension := match view.member? store (Text.of "template_extension") with
    | some (.stored value) => value.shown store
    | _ => methodExtension
  fileText ((Path.ofText directory).join (Path.ofText (name ++ .of "." ++ extension)))

end Stencil.View
