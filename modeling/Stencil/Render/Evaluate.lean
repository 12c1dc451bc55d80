import Stencil.Text.Entity
import Stencil.View.Source

/-!
# Rendering nodes

Nodes are rendered from left to right, and their texts are joined. Whatever makes further nodes
necessary (the body of a block, the text of an inclusion, what a lambda answers or has rendered)
renders them one level deeper. The depth is limited; a rendering that does not come to the limit is
the same for every larger limit.

A lambda that stands for a value is called once: what its answer renders to is written over it, if
the frame that holds it is a mapping that can be written to.
-/

namespace Stencil

/-- Where the texts of inclusions come from. -/
inductive Partials where
  /-- There are none, so that every inclusion is empty. -/
  | absent
  /-- From a lambda, called with the name. -/
  | called (function : Value)
  /-- From what a value holds under the name. -/
  | held (holder : Value)
  /-- From the files of a view. -/
  | filesOf (view : Value)

namespace Partials

/-- A value as the source of the texts of inclusions. -/
def ofValue (value : Value) : Partials :=
  match value with
  | .null => .absent
  | _ => if value.kind = .lambda then .called value else .held value

end Partials

/-- A text with an indentation in front of every line that is not empty. -/
def indentLines (indent : Text) (atLineStart : Bool) : Text → Text
  | [] => []
  | point :: rest =>
    let further := point :: indentLines indent (point == .char '\n') rest
    if atLineStart && point != .char '\n' then indent ++ further else further

namespace Render

/-- How nodes are rendered one level deeper. -/
abbrev Deeper := Partials → List Node → Render Text

/-- Parses a text and renders it in the present frames. -/
def expand (deeper : Deeper) (partials : Partials) (delimiters : Delimiters) (text : Text) :
    Render Text := do
  deeper partials (← parse delimiters text)

/-- Where a view's inclusions come from: its files, unless its class says otherwise. A method that
takes no arguments cannot be asked for a name in their place. -/
def partialsOf (view : Value) : Render Partials := do
  match view.member? (← get).store (Text.of "partial") with
  | some (.stored value) => return .ofValue value
  | some (.computed (.ofView .partialText)) => return .filesOf view
  | _ => return .called (.builtIn .refusing)

/-- The template to be rendered by a view that is given a template and data: data alone may be given
in the place of the template. -/
def templateAndData (template data : Value) : Value × Value :=
  match template, data with
  | .null, _ | .text _, _ => (template, data)
  | _, .null | _, .text _ => (data, template)
  | _, _ => (template, data)

/-- Renders a view. What is not given (nothing in its place) is the view's own: its template, itself
as the data, its partials. -/
def view (deeper : Deeper) (self template data partials : Value) : Render Text := do
  let (template, data) := templateAndData template data
  let template ← match template with
    | .null => View.callMethod self "template" fun
      | .template => return .text (← View.template self)
      | _ => throw .unfit
    | given => pure given
  let data := match data with
    | .null => self
    | given => given
  let source ← match partials with
    | .null => partialsOf self
    | given => pure (Partials.ofValue given)
  withFrames [data] (expand deeper source .standard (← templateText template))

/-- The value that a method of an object computes. -/
def compute (deeper : Deeper) (self : Value) : Method → Render Value
  | .returns value => pure value
  | .raises message => throw (.raised message)
  | .own name => ownMember self name
  | .ofView .template => do return .text (← View.template self)
  | .ofView (.fileName className) => View.fileName self className
  | .ofView .render => do return .text (← view deeper self .null .null .null)
  | .ofView .partialText => throw .unfit
  | .clearsCache => do
    modify fun session =>
      { session with store := { session.store with cache := session.store.cache.clear } }
    return .null
  | .needsArguments => throw .unfit

/-- The value that a frame offers as a member. -/
def memberValue (deeper : Deeper) (frame : Value) : Member → Render Value
  | .stored value => pure value
  | .computed method => compute deeper frame method

/-- Looks a name up in frames: the frame that holds it, and the value. A name that no frame holds
has an empty text for its value and the outermost frame for its frame. -/
def lookup (deeper : Deeper) (name : Text) (frames : List Value) :
    Render (Option Value × Value) := do
  match Context.find? (← get).store name frames with
  | some (_, frame, member) => return (some frame, ← memberValue deeper frame member)
  | none => return (frames.getLast?, .text [])

/-- Writes a text over the lambda that a frame held under a name, if the frame can be written to. -/
def remember (frame : Option Value) (name text : Text) : Render Unit :=
  match frame with
  | some (.mapping address) => write address name (.text text)
  | _ => pure ()

/-- Renders a named value. -/
def interpolation (deeper : Deeper) (partials : Partials) (name : Text) (escaped : Bool) :
    Render Text := do
  let (frame, value) ← lookup deeper name (← get).frames
  let text ← if value.kind = .lambda then do
      let answer ← displayed (← call value 1 [] (expand deeper partials .standard))
      let text ← expand deeper partials .standard answer
      remember frame name text
      pure text
    else displayed value
  return if escaped then Text.Entity.escape text else text

/-- Renders the body of a block in the present frames. -/
def body (deeper : Deeper) (partials : Partials) (source : Text) (delimiters : Delimiters) :
    Option (List Node) → Render Text
  | some nodes => deeper partials nodes
  | none => expand deeper partials delimiters source

/-- Renders a block according to the value of its name: an inverted one if the value is false, any
other one for each item of a sequence, with what a lambda makes of its text, or once if the value
is true. -/
def block (deeper : Deeper) (partials : Partials) (name : Text) (inverted : Bool) (source : Text)
    (delimiters : Delimiters) (nodes : Option (List Node)) : Render Text := do
  let (_, value) ← lookup deeper name (← get).frames
  let truth := value.truth (← get).store
  if inverted then
    if truth then return [] else body deeper partials source delimiters nodes
  else match value.items? with
    | some items =>
      joinEach (fun item => withFrame item (body deeper partials source delimiters nodes)) items
    | none =>
      if value.kind = .lambda then do
        let answer ← displayed (← call value 2 source (expand deeper partials delimiters))
        let replaced ← parse delimiters answer
        withFrame value (deeper partials replaced)
      else if truth then withFrame value (body deeper partials source delimiters nodes)
      else return []

/-- The text of an inclusion. -/
def partialText (deeper : Deeper) (name : Text) : Partials → Render Text
  | .absent => pure []
  | .called function => do displayed (← call function 1 name Callback.none)
  | .held holder => do displayed (← lookup deeper name [holder]).2
  | .filesOf view => View.partialText view name

/-- Renders an inclusion. -/
def inclusion (deeper : Deeper) (partials : Partials) (name indent : Text) : Render Text := do
  let text ← partialText deeper name partials
  note (.partialResolved name text.length)
  expand deeper partials .standard (if indent = [] then text else indentLines indent true text)

/-- Renders one node. -/
def node (deeper : Deeper) (partials : Partials) : Node → Render Text
  | .literal text => pure text
  | .interpolation name escaped => interpolation deeper partials name escaped
  | .block name inverted source delimiters nodes =>
    block deeper partials name inverted source delimiters nodes
  | .inclusion name indent => inclusion deeper partials name indent
  | .foreign value => do throw (.foreignNode (value.describe (← get).store))

/-- Renders nodes, down to a depth. -/
def generate : Nat → Deeper
  | 0, _, _ => throw .tooDeep
  | depth + 1, partials, nodes => joinEach (node (generate depth) partials) nodes

/-- No template is rendered more deeply than this. -/
def depthLimit : Nat :=
  1000000

/-- Renders nodes down to the limit. -/
def nodes (partials : Partials) (nodes : List Node) : Render Text :=
  generate depthLimit partials nodes

/-- Renders a template against data. Without data there are no frames. -/
def template (partials : Partials) (delimiters : Delimiters) (text : Text) (data : Value) :
    Render Text :=
  withFrames (match data with | .null => [] | _ => [data])
    (expand (generate depthLimit) partials delimiters text)

end Render

end Stencil
