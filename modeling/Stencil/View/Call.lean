import Stencil.Render.Evaluate
import Stencil.View.Make

/-!
# Asking a view

The four methods of a view as its users call them. A class can have put something else in the place
of each; then that is called instead, and it is a mistake if it does not take what it is given.
-/

namespace Stencil.View

/-- The name of the view's template file. -/
def callFileName (view : Value) : Render Value :=
  callMethod view "template_file_name" fun
    | .fileName className => fileName view className
    | _ => throw .unfit

/-- The text of the view's template. -/
def callTemplate (view : Value) : Render Value :=
  callMethod view "template" fun
    | .template => do return .text (← template view)
    | _ => throw .unfit

/-- The text of a partial of the view. -/
def callPartial (view : Value) (name : Text) : Render Value := do
  match ← Render.partialsOf view with
  | .filesOf view => return .text (← partialText view name)
  | .called function => Render.call function 1 name Callback.none
  | _ => throw .unfit

/-- A way to have a text rendered by a lambda that answers with texts. -/
def callbackOf (function : Value) : Callback := fun text => do
  match ← Render.call function 1 text Callback.none with
  | .text answer => return answer
  | _ => throw .unfit

/-- Calls a value with things of all kinds. The last text among them is the one that it is given,
and the last lambda renders for it. -/
def callWith (function : Value) (given : List Value) : Render Value :=
  let texts := given.filterMap fun
    | .text content => some content
    | _ => none
  let callbacks := given.filter fun value => value.kind = .lambda
  Render.call function given.length (texts.getLast?.getD [])
    ((callbacks.getLast?.map callbackOf).getD Callback.none)

/-- The view, rendered with a template, data and partials; nothing stands for the view's own. -/
def callRender (view template data partials : Value) : Render Value := do
  match view.member? (← get).store (Text.of "render") with
  | some (.computed (.ofView .render)) =>
    return .text
      (← Render.view (Render.generate Render.depthLimit) view template data partials)
  | some (.stored function) => callWith function [template, data, partials]
  | _ => throw .unfit

end Stencil.View
