import Stencil.Render.Session

/-!
# Calling lambdas

A lambda is called with a text, and with a way to have a text rendered in the present frames. Every
call is counted when it begins. What a lambda then does is up to whoever wrote it (`Behaviour`): it
can have texts rendered and go on where that fails, read and write mappings, and answer with a
value.
-/

namespace Stencil

/-- A way to have a text rendered. -/
abbrev Callback := Text → Render Text

namespace Callback

/-- Where nothing is rendered for a lambda, asking for it is a mistake. -/
def none : Callback :=
  fun _ => throw .unfit

end Callback

namespace Store

/-- How often the lambda at an address has been called. -/
def calls (store : Store) (address : Nat) : Nat :=
  match store.lambdas[address]? with
  | some lambda => lambda.calls
  | none => 0

/-- What the mapping at an address shows under a name. -/
def shownUnder (store : Store) (address : Nat) (name : Text) : Option Text :=
  ((store.entries address).lookup (.text name)).map fun value => value.display store

end Store

namespace Render

/-- Runs a computation, and goes on without its result if it fails. -/
def attempt (computation : Render Text) : Render (Option Text) := fun session =>
  let (result, after) := computation session
  (.ok result.toOption, after)

/-- Writes a value under a name into the mapping at an address. -/
def write (address : Nat) (name : Text) (value : Value) : Render Unit :=
  modify fun session => { session with store := session.store.write address name value }

end Render

/-- What comes of a behaviour, for the lambda at an address that is called with a way to have a text
rendered. -/
def Behaviour.run (address : Nat) (callback : Callback) : Behaviour → Render Value
  | .returns value => pure value
  | .raises message => throw (.raised message)
  | .counts next => do (next ((← get).store.calls address)).run address callback
  | .renders text next => do (next (← callback text)).run address callback
  | .tries text next => do (next (← Render.attempt (callback text))).run address callback
  | .reads place name next => do (next ((← get).store.shownUnder place name)).run address callback
  | .writes place name value next => do
    Render.write place name value
    next.run address callback

namespace SetFunction

/-- Whether an item of a set is the text of one code point. -/
def isItem (item : Value) (point : CodePoint) : Bool :=
  match item with
  | .text [only] => only == point
  | _ => false

/-- Items with the text of one code point among them. -/
def insert (items : List Value) (point : CodePoint) : List Value :=
  if items.any (isItem · point) then items else .text [point] :: items

end SetFunction

namespace Render

/-- Calls the lambda at an address with a text. -/
def callLambda (address : Nat) (raw : Text) (callback : Callback) : Render Value := do
  modify fun session => { session with store := session.store.countCall address }
  match (← get).store.lambdas[address]? with
  | none => throw .unfit
  | some lambda => (lambda.behaviour raw).run address callback

/-- Changes the set at an address. -/
def changeSet (address : Nat) (change : List Value → List Value) : Render Unit :=
  modify fun session => { session with store := session.store.changeSet address change }

/-- What a function of a set answers when it is given one thing, a way to have a text rendered, or
two things, a text before that. A way to have a text rendered is always a new one, so no set has it
as an item; neither has it any items, which shows only after those of the text have been seen to. -/
def callOfSet (function : SetFunction) (address given : Nat) (raw : Text) : Render Value :=
  match function, given with
  | .add, 1 => do
    changeSet address (.builtIn .refusing :: ·)
    return .null
  | .discard, 1 => return .null
  | .remove, 1 => throw .notHeld
  | .addAll, 2 => do
    changeSet address fun items => raw.foldl SetFunction.insert items
    throw .unfit
  | .removeAll, 2 => do
    changeSet address fun items => items.filter fun item => !raw.any (SetFunction.isItem item)
    throw .unfit
  | _, _ => throw .unfit

/-- What a function that a value brings along answers when it is given a number of things. -/
def callBuiltIn (given : Nat) (raw : Text) : BuiltIn → Render Value
  | .refusing => throw .unfit
  | .ofSet function address => callOfSet function address given raw

/-- What an object has under a name: a value that it stores, or a method as a function. -/
def ownMember (object : Value) (name : Text) : Render Value := do
  match object.member? (← get).store name with
  | some (.stored value) => return value
  | some (.computed _) => return .builtIn .refusing
  | none => throw .lacking

/-- What an object answers that is called with a number of things; none takes any. -/
def callObject (object : Value) (members : List (Text × Member)) (role : Role) (given : Nat) :
    Render Value :=
  match role, given with
  | .maker, 0 => return .object members (Text.of "<object>") true .thing
  | .callable, 0 => match members.lookup (Text.of "__call__") with
    | some (.computed (.returns value)) => return value
    | some (.computed (.raises message)) => throw (.raised message)
    | some (.computed (.own name)) => ownMember object name
    | _ => throw .unfit
  | _, _ => throw .unfit

/-- Calls a value of the kind of lambdas with a number of things: among them a text, if there is
one, and a way to have a text rendered. -/
def call (value : Value) (given : Nat) (raw : Text) (callback : Callback) : Render Value :=
  match value with
  | .lambda address => callLambda address raw callback
  | .builtIn function => callBuiltIn given raw function
  | .object members _ _ role => callObject value members role given
  | _ => throw .unfit

end Render

end Stencil
