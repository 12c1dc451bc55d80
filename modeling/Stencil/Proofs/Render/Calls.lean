import Stencil.Proofs.Render.Recorded

/-!
# The calls that rendering makes

Rendering with a record of its calls goes like rendering, construct by construct: values are looked
up and displayed, lambdas are called and have texts rendered, nodes are rendered one after the
other. Without the record each recorded computation is the one that it records
(`Recorded.run_generate`), so the lambdas in a store are afterwards those of before, called as often
as the record says (`Render.lambdas_generate`).
-/

namespace Stencil

namespace Recorded

/-! ## Calls -/

/-- A recorded way to have a text rendered. -/
abbrev Callback := Text → Recorded Text

/-- Without the record a way to have a text rendered is one. -/
def Callback.run (callback : Callback) : Stencil.Callback :=
  fun text => (callback text).run

/-- Where nothing is rendered for a lambda, asking for it is a mistake. -/
def Callback.none : Callback :=
  fun _ => fail .unfit

/-- What comes of a behaviour, for the lambda at an address. -/
def ofBehaviour (address : Nat) (callback : Callback) : Behaviour → Recorded Value
  | .returns value => pure value
  | .raises message => fail (.raised message)
  | .counts next => do ofBehaviour address callback (next ((← look).store.calls address))
  | .renders text next => do ofBehaviour address callback (next (← callback text))
  | .tries text next => do ofBehaviour address callback (next (← attempt (callback text)))
  | .reads place name next => do
    ofBehaviour address callback (next ((← look).store.shownUnder place name))
  | .writes place name value next => do
    silent (Render.write place name value) (Render.quiet_write place name value)
    ofBehaviour address callback next

/-- A call of the lambda at an address. -/
def callLambda (address given : Nat) (raw : Text) (callback : Callback) : Recorded Value := do
  counting address given raw
  match (← look).store.lambdas[address]? with
  | none => fail .unfit
  | some lambda => ofBehaviour address callback (lambda.behaviour raw)

/-- A call of an object, which is a lambda if it is there to be called. -/
def callObject (members : List (Text × Member)) (shown : Text) (truth : Bool) (role : Role)
    (given : Nat) (raw : Text) : Recorded Value :=
  match role with
  | .callable =>
    let object := .object members shown truth .callable
    calling ⟨object, rfl, given, raw⟩ (Render.callObject object members .callable given)
      (Render.quiet.callObject object members .callable given) fun _ => rfl
  | other =>
    let object := .object members shown truth other
    silent (Render.callObject object members other given)
      (Render.quiet.callObject object members other given)

/-- A call of a value. -/
def call (value : Value) (given : Nat) (raw : Text) (callback : Callback) : Recorded Value :=
  match value with
  | .lambda address => callLambda address given raw callback
  | .builtIn function =>
    calling ⟨.builtIn function, rfl, given, raw⟩ (Render.callBuiltIn given raw function)
      (Render.quiet_callBuiltIn given raw function) fun _ => rfl
  | .object members shown truth role => callObject members shown truth role given raw
  | _ => fail .unfit

section Call

variable (address given : Nat) (raw : Text) (callback : Callback)

/-- Without the record a behaviour is run. -/
theorem run_ofBehaviour (behaviour : Behaviour) :
    (ofBehaviour address callback behaviour).run = behaviour.run address callback.run := by
  induction behaviour with
  | returns value => rfl
  | raises message => rfl
  | counts next inductionHypothesis => exact bind_congr fun _ => inductionHypothesis _
  | renders text next inductionHypothesis => exact bind_congr inductionHypothesis
  | tries text next inductionHypothesis => exact bind_congr inductionHypothesis
  | reads place name next inductionHypothesis => exact bind_congr fun _ => inductionHypothesis _
  | writes place name value next inductionHypothesis =>
    exact bind_congr fun _ => inductionHypothesis

/-- Without the record a call of a lambda is one. -/
theorem run_callLambda :
    (callLambda address given raw callback).run =
      Render.callLambda address raw callback.run := by
  refine bind_congr fun _ => bind_congr fun session => ?_
  dsimp only
  cases session.store.lambdas[address]? with
  | none => rfl
  | some lambda => exact run_ofBehaviour address callback (lambda.behaviour raw)

/-- Without the record a call is one. -/
theorem run_call (value : Value) :
    (call value given raw callback).run = Render.call value given raw callback.run := by
  cases value with
  | lambda address => exact run_callLambda address given raw callback
  | object members shown truth role => cases role <;> rfl
  | _ => rfl

end Call

/-! ## Views -/

/-- A call of a method of a view. -/
def callMethod (view : Value) (name : String) (own : ViewMethod → Recorded Value) :
    Recorded Value := do
  match view.member? (← look).store (.of name) with
  | some (.computed (.returns value)) => return value
  | some (.computed (.raises message)) => fail (.raised message)
  | some (.computed (.own name)) =>
    silent (Render.ownMember view name) (Render.quiet.ownMember view name)
  | some (.computed (.ofView method)) => own method
  | some (.stored value) => call value 0 [] Callback.none
  | _ => fail .unfit

/-- The text of a view's template. -/
def viewTemplate (view : Value) : Recorded Text := do
  let directory ← silent (View.storedText view "template_path")
    (Render.quiet.storedText view "template_path")
  let name ← callMethod view "template_file_name" fun
    | .fileName className =>
      silent (View.fileName view className) (Render.quiet.fileName view className)
    | _ => fail .unfit
  match name with
  | .text content =>
    let path := (Path.ofText directory).join (Path.ofText content)
    silent (View.fileText path) (Render.quiet.fileText path)
  | _ => fail .unfit

/-- The template of a view: the one that is given, or else its own. -/
def templateOrOwn (self : Value) : Value → Recorded Value
  | .null => callMethod self "template" fun
    | .template => do return .text (← viewTemplate self)
    | _ => fail .unfit
  | given => pure given

/-- Without the record a call of a method of a view is one. -/
theorem run_callMethod (view : Value) (name : String) (own : ViewMethod → Recorded Value) :
    (callMethod view name own).run =
      View.callMethod view name fun method => (own method).run := by
  refine bind_congr fun session => ?_
  dsimp only
  cases view.member? session.store (.of name) with
  | none => rfl
  | some member =>
    cases member with
    | stored value => exact run_call 0 [] Callback.none value
    | computed method => cases method <;> rfl

/-- Without the record the text of a view's template is what it is. -/
theorem run_viewTemplate (view : Value) : (viewTemplate view).run = View.template view := by
  refine bind_congr fun directory => ?_
  rw [run_bind, run_callMethod]
  refine congrArg₂ _ (congrArg _ (funext fun method => ?_)) (funext fun name => ?_)
  · cases method <;> rfl
  · cases name <;> rfl

/-- Without the record the template of a view is what it is. -/
theorem run_templateOrOwn (self template : Value) :
    (templateOrOwn self template).run = Render.templateOrOwn self template := by
  cases template with
  | null =>
    unfold templateOrOwn Render.templateOrOwn
    rw [run_callMethod]
    refine congrArg _ (funext fun method => ?_)
    cases method with
    | template =>
      dsimp only
      rw [run_bind, run_viewTemplate]
      rfl
    | _ => rfl
  | _ => rfl

/-! ## Nodes -/

/-- How nodes are rendered one level deeper. -/
abbrev Deeper := Partials → List Node → Recorded Text

/-- Without the record nodes are rendered one level deeper. -/
def Deeper.run (deeper : Deeper) : Render.Deeper :=
  fun partials nodes => (deeper partials nodes).run

/-- Parses a text and renders it in the present frames. -/
def expand (deeper : Deeper) (partials : Partials) (delimiters : Delimiters) : Callback :=
  fun text => do deeper partials (← parse delimiters text)

/-- Renders a view. -/
def view (deeper : Deeper) (self template data partials : Value) : Recorded Text := do
  let chosen ← templateOrOwn self (Render.templateAndData template data).1
  let source ← silent (Render.partialsOrOwn self partials)
    (Render.quiet_partialsOrOwn self partials)
  let text ← silent (Render.templateText chosen) (Render.quiet.templateText chosen)
  withFrames [Render.dataOrSelf self (Render.templateAndData template data).2]
    (expand deeper source .standard text)

/-- The value that a method of an object computes. -/
def compute (deeper : Deeper) (self : Value) : Method → Recorded Value
  | .returns value => pure value
  | .raises message => fail (.raised message)
  | .own name => silent (Render.ownMember self name) (Render.quiet.ownMember self name)
  | .ofView .template => do return .text (← viewTemplate self)
  | .ofView (.fileName className) =>
    silent (View.fileName self className) (Render.quiet.fileName self className)
  | .ofView .render => do return .text (← view deeper self .null .null .null)
  | .ofView .partialText => fail .unfit
  | .clearsCache => do
    silent (modify fun session =>
      { session with store := { session.store with cache := session.store.cache.clear } })
      fun _ => rfl
    return .null
  | .needsArguments => fail .unfit

/-- The value that a frame offers as a member. -/
def memberValue (deeper : Deeper) (frame : Value) : Member → Recorded Value
  | .stored value => pure value
  | .computed method => compute deeper frame method

/-- Looks a name up in frames. -/
def lookup (deeper : Deeper) (name : Text) (frames : List Value) :
    Recorded (Option Value × Value) := do
  match Context.find? (← look).store name frames with
  | some (_, frame, member) => return (some frame, ← memberValue deeper frame member)
  | none => return (frames.getLast?, .text [])

/-- What a lambda that stands for a value is evaluated to. -/
def evaluation (deeper : Deeper) (partials : Partials) (function : Value) : Recorded Text := do
  let answer ← displayed (← call function 1 [] (expand deeper partials .standard))
  expand deeper partials .standard answer

/-- Evaluates a lambda, and writes what comes of it over the lambda. -/
def settle (deeper : Deeper) (partials : Partials) (frame : Option Value) (name : Text)
    (function : Value) : Recorded Text := do
  let text ← evaluation deeper partials function
  silent (Render.remember frame name text) (Render.quiet_remember frame name text)
  return text

/-- Renders a named value. -/
def interpolation (deeper : Deeper) (partials : Partials) (name : Text) (escaped : Bool) :
    Recorded Text := do
  let (frame, value) ← lookup deeper name (← look).frames
  let text ← if value.kind = .lambda then settle deeper partials frame name value
    else displayed value
  return if escaped then Text.Entity.escape text else text

/-- Renders the body of a block in the present frames. -/
def body (deeper : Deeper) (partials : Partials) (source : Text) (delimiters : Delimiters) :
    Option (List Node) → Recorded Text
  | some nodes => deeper partials nodes
  | none => expand deeper partials delimiters source

/-- Renders a block according to the value of its name. -/
def block (deeper : Deeper) (partials : Partials) (name : Text) (inverted : Bool) (source : Text)
    (delimiters : Delimiters) (nodes : Option (List Node)) : Recorded Text := do
  let (_, value) ← lookup deeper name (← look).frames
  let truth := value.truth (← look).store
  if inverted then
    if truth then return [] else body deeper partials source delimiters nodes
  else match value.items? with
    | some items =>
      joinEach (fun item => withFrame item (body deeper partials source delimiters nodes)) items
    | none =>
      if value.kind = .lambda then do
        let answer ← displayed (← call value 2 source (expand deeper partials delimiters))
        let replaced ← parse delimiters answer
        withFrame value (deeper partials replaced)
      else if truth then withFrame value (body deeper partials source delimiters nodes)
      else return []

/-- The text of an inclusion. -/
def partialText (deeper : Deeper) (name : Text) : Partials → Recorded Text
  | .absent => pure []
  | .called function => do displayed (← call function 1 name Callback.none)
  | .held holder => do displayed (← lookup deeper name [holder]).2
  | .filesOf view => silent (View.partialText view name) (Render.quiet.viewPartialText view name)

/-- Renders an inclusion. -/
def inclusion (deeper : Deeper) (partials : Partials) (name indent : Text) : Recorded Text := do
  let text ← partialText deeper name partials
  silent (Render.note (.partialResolved name text.length)) (Render.quiet_note _)
  expand deeper partials .standard (if indent = [] then text else indentLines indent true text)

/-- Renders one node. -/
def node (deeper : Deeper) (partials : Partials) : Node → Recorded Text
  | .literal text => pure text
  | .interpolation name escaped => interpolation deeper partials name escaped
  | .block name inverted source delimiters nodes =>
    block deeper partials name inverted source delimiters nodes
  | .inclusion name indent => inclusion deeper partials name indent
  | .foreign value => do fail (.foreignNode (value.describe (← look).store))

/-- Renders nodes, down to a depth. -/
def generate : Nat → Deeper
  | 0, _, _ => fail .tooDeep
  | depth + 1, partials, nodes => joinEach (node (generate depth) partials) nodes

/-- Renders a template against data. -/
def template (partials : Partials) (delimiters : Delimiters) (text : Text) (data : Value) :
    Recorded Text :=
  withFrames (match data with | .null => [] | _ => [data])
    (expand (generate Render.depthLimit) partials delimiters text)

/-! ## Without the record -/

section Deeper

variable (deeper : Deeper) (partials : Partials)

/-- Without the record a view is rendered. -/
theorem run_view (self template data partials : Value) :
    (view deeper self template data partials).run =
      Render.view deeper.run self template data partials := by
  rw [Render.view_eq, ← run_templateOrOwn]
  rfl

/-- Without the record a method computes its value. -/
theorem run_compute (self : Value) (method : Method) :
    (compute deeper self method).run = Render.compute deeper.run self method := by
  cases method with
  | ofView method =>
    cases method with
    | template =>
      unfold compute Render.compute
      rw [run_bind, run_viewTemplate]
      rfl
    | render =>
      unfold compute Render.compute
      rw [run_bind, run_view]
      rfl
    | _ => rfl
  | _ => rfl

/-- Without the record a name is looked up. -/
theorem run_lookup (name : Text) (frames : List Value) :
    (lookup deeper name frames).run = Render.lookup deeper.run name frames := by
  refine bind_congr fun session => ?_
  dsimp only
  cases Context.find? session.store name frames with
  | none => rfl
  | some place =>
    obtain ⟨distance, frame, member⟩ := place
    cases member with
    | stored value => rfl
    | computed method =>
      dsimp only [memberValue, Render.memberValue]
      rw [run_bind, run_compute]
      rfl

/-- Without the record a lambda is settled. -/
theorem run_settle (frame : Option Value) (name : Text) (function : Value) :
    (settle deeper partials frame name function).run =
      Render.settle deeper.run partials frame name function := by
  unfold settle evaluation Render.settle Render.evaluation
  simp only [run_bind, run_call]
  rfl

/-- Without the record a named value is rendered. -/
theorem run_interpolation (name : Text) (escaped : Bool) :
    (interpolation deeper partials name escaped).run =
      Render.interpolation deeper.run partials name escaped := by
  rw [Render.interpolation_eq]
  refine bind_congr fun session => ?_
  rw [run_bind, run_lookup]
  refine bind_congr ?_
  rintro ⟨frame, value⟩
  dsimp only
  split
  · rw [run_bind, run_settle]
    rfl
  · rfl

/-- Without the record a block is rendered. -/
theorem run_block (name : Text) (inverted : Bool) (source : Text) (delimiters : Delimiters)
    (nodes : Option (List Node)) :
    (block deeper partials name inverted source delimiters nodes).run =
      Render.block deeper.run partials name inverted source delimiters nodes := by
  have sameBody : (body deeper partials source delimiters nodes).run =
      Render.body deeper.run partials source delimiters nodes := by
    cases nodes <;> rfl
  refine bind_congr fun session => ?_
  rw [run_bind, run_lookup]
  refine bind_congr ?_
  rintro ⟨frame, value⟩
  refine bind_congr fun session => ?_
  dsimp only
  rw [← sameBody]
  split
  · split <;> rfl
  · cases value.items? with
    | some items => exact run_joinEach _ items
    | none =>
      dsimp only
      split
      · simp only [run_bind, run_call]
        rfl
      · split <;> rfl

/-- Without the record an inclusion is rendered. -/
theorem run_inclusion (name indent : Text) :
    (inclusion deeper partials name indent).run =
      Render.inclusion deeper.run partials name indent := by
  have sameText : (partialText deeper name partials).run =
      Render.partialText deeper.run name partials := by
    cases partials with
    | called function =>
      unfold partialText Render.partialText
      rw [run_bind, run_call]
      rfl
    | held holder =>
      unfold partialText Render.partialText
      rw [run_bind, run_lookup]
      rfl
    | _ => rfl
  unfold inclusion Render.inclusion
  rw [run_bind, sameText]
  rfl

/-- Without the record a node is rendered. -/
theorem run_node (node : Node) :
    (Recorded.node deeper partials node).run = Render.node deeper.run partials node := by
  cases node with
  | interpolation name escaped => exact run_interpolation deeper partials name escaped
  | block name inverted source delimiters nodes =>
    exact run_block deeper partials name inverted source delimiters nodes
  | inclusion name indent => exact run_inclusion deeper partials name indent
  | _ => rfl

end Deeper

/-- Without the record nodes are rendered, however deep it goes. -/
theorem run_generate (depth : Nat) : Deeper.run (generate depth) = Render.generate depth := by
  induction depth with
  | zero => rfl
  | succ depth inductionHypothesis =>
    funext partials nodes
    have sameNode (node : Node) : (Recorded.node (generate depth) partials node).run =
        Render.node (Render.generate depth) partials node := by
      rw [run_node, inductionHypothesis]
    change (joinEach (node (generate depth) partials) nodes).run = _
    rw [run_joinEach]
    exact congrArg (Render.joinEach · nodes) (funext sameNode)

end Recorded

/-- The calls of lambdas that rendering makes in a session, in their order. -/
def Render.calls (depth : Nat) (partials : Partials) (nodes : List Node) (session : Session) :
    List LambdaCall :=
  (Recorded.generate depth partials nodes).calls session

/-- Rendering does to the lambdas nothing but that they count the calls that it makes. -/
theorem Render.lambdas_generate (depth : Nat) (partials : Partials) (nodes : List Node)
    (session : Session) (address : Nat) :
    (generate depth partials nodes session).2.store.lambdas[address]? =
      session.store.lambdas[address]?.map (Lambda.calledAgain
        ((calls depth partials nodes session).countP (LambdaCall.isOf address))) := by
  rw [← Recorded.run_generate]
  exact (Recorded.generate depth partials nodes).counted session address

end Stencil
