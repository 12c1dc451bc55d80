import Stencil.Cache.Parse
import Stencil.Context
import Stencil.Files.Tree
import Stencil.Value.Display
import Stencil.Value.Truth

/-!
# Rendering as a computation

Rendering works on a session: the store that values refer to, the stack of frames, the files, and
the log. A computation yields a result or fails, and the session it leaves is there in either case,
so that what a failing rendering did before it failed can be seen afterwards.

Frames are only ever changed by `Render.withFrame` and `Render.withFrames`, which put the earlier
frames back whatever the inner computation yields.
-/

namespace Stencil

/-- What rendering works on. -/
structure Session where
  store : Store
  /-- The frames in which names are looked up, innermost first. -/
  frames : List Value
  files : FileTree
  /-- The log lines so far, the latest first. -/
  log : List LogEvent

/-- Why a rendering fails. -/
inductive Failure where
  /-- A template, or a text rendered like one, is malformed. -/
  | malformed (error : ParseError)
  /-- A lambda or a method refused with this message. -/
  | raised (message : Text)
  /-- Something that is no node stands among the nodes. -/
  | foreignNode (shown : Text)
  /-- A value is used in a way that its type does not allow. -/
  | unfit
  /-- A value is to give up something that it does not hold. -/
  | notHeld
  /-- A value is asked for something that it does not offer. -/
  | lacking
  /-- Fields of a view have names that are reserved. -/
  | clash (names : List Text)
  /-- There is a template file, or may be one, but it cannot be read. -/
  | unreadable (error : ReadError)
  /-- Templates are nested more deeply than the limit allows. -/
  | tooDeep
  deriving DecidableEq, Repr

namespace Failure

/-- The report of a failure, for those that have one. -/
def message? : Failure → Option Text
  | .malformed error => some error.message
  | .raised message => some message
  | .foreignNode shown => some (Text.of "Unknown node: " ++ shown)
  | .clash names =>
    some (Text.of "Field names clash with view methods: " ++ Text.joinWith (.of ", ") names)
  | _ => none

end Failure

/-- A computation on a session. -/
abbrev Render := ExceptT Failure (StateM Session)

namespace Session

/-- A session at its start. -/
def start (store : Store) (files : FileTree) : Session :=
  ⟨store, [], files, []⟩

end Session

namespace Render

variable {α : Type}

/-- Adds a log line. -/
def note (event : LogEvent) : Render Unit :=
  modify fun session => { session with log := event :: session.log }

/-- Parses a template through the session's cache. -/
def parse (delimiters : Delimiters) (template : Text) : Render (List Node) :=
  fun ⟨⟨mappings, sets, lambdas, cache⟩, frames, files, log⟩ =>
    let parsed := cache.parse delimiters template
    (parsed.result.mapError .malformed,
      ⟨⟨mappings, sets, lambdas, parsed.cache⟩, frames, files, parsed.log.reverse ++ log⟩)

/-- The text of a template. What is no text is no template, but if it says the same for ever, that
becomes clear only after the cache was asked for it. -/
def templateText (template : Value) : Render Text :=
  match template with
  | .text content => pure content
  | other => do
    if other.isFixed then
      modify fun session =>
        { session with store := { session.store with cache := session.store.cache.miss } }
    throw .unfit

/-- Runs a computation with one more frame inside the present ones. -/
def withFrame (frame : Value) (inner : Render α) : Render α := fun session =>
  let (result, after) := inner { session with frames := frame :: session.frames }
  (result, { after with frames := after.frames.tail })

/-- Runs a computation with other frames in the place of the present ones. -/
def withFrames (frames : List Value) (inner : Render α) : Render α := fun session =>
  let (result, after) := inner { session with frames := frames }
  (result, { after with frames := session.frames })

/-- What a template outputs for a value. -/
def displayed (value : Value) : Render Text := do
  return value.display (← get).store

/-- The results of a computation for each item, joined. -/
def joinEach (render : α → Render Text) : List α → Render Text
  | [] => pure []
  | [item] => render item
  | item :: items => do
    let first ← render item
    let others ← joinEach render items
    return first ++ others

end Render

end Stencil
