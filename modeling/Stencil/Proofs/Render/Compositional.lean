import Stencil.Render.Evaluate

/-!
# Properties of what computations are put together from

Some properties of computations hold of what is put together from smaller ones if they hold of
these (`Render.Compositional`). Such a property holds of all that renders nothing and calls nothing:
displaying a value, reading a file, asking a view for what it stores.
-/

namespace Stencil.Render

/-- A property of computations that holds of the smallest ones, and of one computation after the
other if it holds of both. -/
structure Compositional (property : (α : Type) → Render α → Prop) : Prop where
  pure : ∀ {α : Type} (value : α), property α (pure value)
  throw : ∀ {α : Type} (failure : Failure), property α (throw failure)
  get : property Session get
  note : ∀ event, property Unit (note event)
  miss : property Unit (modify fun session =>
    { session with store := { session.store with cache := session.store.cache.miss } })
  bind : ∀ {α β : Type} {first : Render α} {next : α → Render β}, property α first →
    (∀ value, property β (next value)) → property β (first >>= next)

namespace Compositional

variable {property : (α : Type) → Render α → Prop} (compositional : Compositional property)

include compositional

/-- It holds of displaying a value. -/
theorem displayed (value : Value) : property Text (displayed value) :=
  compositional.bind compositional.get fun _ => compositional.pure _

/-- It holds of asking for the text of a template. -/
theorem templateText (template : Value) : property Text (templateText template) := by
  unfold Render.templateText
  split
  · exact compositional.pure _
  · split
    · exact compositional.bind compositional.miss fun _ => compositional.throw _
    · exact compositional.throw _

/-- It holds of asking an object for what it has. -/
theorem ownMember (object : Value) (name : Text) : property Value (ownMember object name) := by
  unfold Render.ownMember
  refine compositional.bind compositional.get fun session => ?_
  split
  · exact compositional.pure _
  · exact compositional.pure _
  · exact compositional.throw _

/-- It holds of calling an object. -/
theorem callObject (object : Value) (members : List (Text × Member)) (role : Role) (given : Nat) :
    property Value (callObject object members role given) := by
  unfold Render.callObject
  repeat' split
  all_goals first
    | exact compositional.pure _
    | exact compositional.throw _
    | exact compositional.ownMember object _

/-- It holds of reading a file. -/
theorem fileText (path : Path) : property Text (View.fileText path) := by
  unfold View.fileText
  refine compositional.bind compositional.get fun session => ?_
  split
  · exact compositional.pure _
  · exact compositional.bind (compositional.note _) fun _ => compositional.pure _
  · exact compositional.throw _

/-- It holds of asking a view for a value. -/
theorem stored (view : Value) (name : String) : property Value (View.stored view name) :=
  compositional.ownMember view _

/-- It holds of asking a view for a text. -/
theorem storedText (view : Value) (name : String) :
    property Text (View.storedText view name) := by
  unfold View.storedText
  refine compositional.bind (compositional.stored view name) fun value => ?_
  split
  · exact compositional.pure _
  · exact compositional.throw _

/-- It holds of finding the file name of a view. -/
theorem fileName (view : Value) (className : Text) :
    property Value (View.fileName view className) := by
  unfold View.fileName
  refine compositional.bind (compositional.stored view _) fun file => ?_
  refine compositional.bind compositional.get fun session => ?_
  dsimp only
  split
  · exact compositional.pure _
  · refine compositional.bind (compositional.stored view _) fun space => ?_
    have completes (name : Text) : property Value (do
        let extension ← View.storedText view "template_extension"
        return .text (View.classPath name ++ .of "." ++ extension)) :=
      compositional.bind (compositional.storedText view _) fun extension => compositional.pure _
    split
    · split
      · exact compositional.bind (compositional.pure _) completes
      · exact compositional.bind (compositional.throw _) completes
    · exact compositional.bind (compositional.pure _) completes

/-- It holds of finding a partial of a view. -/
theorem viewPartialText (view : Value) (name : Text) :
    property Text (View.partialText view name) := by
  unfold View.partialText
  refine compositional.bind (compositional.storedText view _) fun directory => ?_
  exact compositional.bind compositional.get fun session => compositional.fileText _

/-- It holds of finding where the inclusions of a view come from. -/
theorem partialsOf (view : Value) : property Partials (partialsOf view) := by
  unfold Render.partialsOf
  refine compositional.bind compositional.get fun session => ?_
  split
  · exact compositional.pure _
  · exact compositional.pure _
  · exact compositional.pure _

end Compositional

end Stencil.Render
