import Stencil.Proofs.Render.Outcome

/-!
# Rendering in other frames

Of the session, the frames are what names are looked up in. A computation that looks no names up has
nothing to do with them: in other frames it does the same, and leaves these where they are
(`Render.IgnoresFrames`). Calling lambdas for which nothing is rendered is of this kind, and so is
all that the methods of objects compute (`Render.ignores_compute`): a view that is rendered is
rendered in frames of its own.
-/

namespace Stencil.Render

variable {α β : Type}

/-- From a session a computation does the same as with other frames, which it leaves where they
are. -/
def SameIn (others : List Value) (computation : Render α) (session : Session) : Prop :=
  computation { session with frames := others } =
    ((computation session).1, { (computation session).2 with frames := others })

/-- One computation after the other does the same in other frames if both do. -/
theorem SameIn.bind {others : List Value} {first : Render α} {next : α → Render β}
    {session : Session} (begins : SameIn others first session)
    (continues : ∀ value between, first session = (.ok value, between) →
      SameIn others (next value) between) : SameIn others (first >>= next) session := by
  unfold SameIn at begins ⊢
  cases ran : first session with
  | mk result between =>
    rw [ran] at begins
    cases result with
    | error failure => rw [bind_of_error ran, bind_of_error begins]
    | ok value =>
      rw [bind_of_ok ran, bind_of_ok begins]
      exact continues value between ran

/-- A session may be looked at for what is the same in other frames. -/
theorem SameIn.get {others : List Value} {next : Session → Render α} {session : Session}
    (same : next { session with frames := others } = next session)
    (continues : SameIn others (next session) session) :
    SameIn others (MonadState.get >>= next) session := by
  unfold SameIn
  rw [bind_of_get, bind_of_get, same]
  exact continues

/-- What is done in the same way in one more frame is done in the same way outside of it. -/
theorem SameIn.withFrame {others : List Value} {inner : Render α} {frame : Value}
    {session : Session}
    (same : SameIn (frame :: others) inner { session with frames := frame :: session.frames }) :
    SameIn others (withFrame frame inner) session :=
  congrArg (fun run : Except Failure α × Session =>
    (run.1, ({ run.2 with frames := run.2.frames.tail } : Session))) same

/-- A computation has nothing to do with the frames. -/
def IgnoresFrames (computation : Render α) : Prop :=
  ∀ (session : Session) (others : List Value), SameIn others computation session

/-! ## Computations in general -/

/-- Doing nothing ignores the frames. -/
theorem ignores_pure (value : α) : IgnoresFrames (pure value) :=
  fun _ _ => rfl

/-- Failing ignores the frames. -/
theorem ignores_throw (failure : Failure) : IgnoresFrames (throw failure : Render α) :=
  fun _ _ => rfl

/-- Adding a log line ignores the frames. -/
theorem ignores_note (event : LogEvent) : IgnoresFrames (note event) :=
  fun _ _ => rfl

/-- Parsing through the cache ignores the frames. -/
theorem ignores_parse (delimiters : Delimiters) (text : Text) :
    IgnoresFrames (parse delimiters text) :=
  fun _ _ => rfl

/-- One computation after the other ignores the frames if both do. -/
theorem IgnoresFrames.bind {first : Render α} {next : α → Render β} (begins : IgnoresFrames first)
    (continues : ∀ value, IgnoresFrames (next value)) : IgnoresFrames (first >>= next) :=
  fun session others => (begins session others).bind fun value between _ =>
    continues value between others

/-- A computation whose failure is passed over ignores the frames if it does so itself. -/
theorem IgnoresFrames.attempt {inner : Render Text} (ignores : IgnoresFrames inner) :
    IgnoresFrames (attempt inner) :=
  fun session others => congrArg
    (fun run : Except Failure Text × Session => ((.ok run.1.toOption : Except Failure _), run.2))
    (ignores session others)

/-- A session may be looked at for what is not its frames. -/
theorem ignores_get {next : Session → Render α}
    (same : ∀ (session : Session) (others : List Value),
      next { session with frames := others } = next session)
    (continues : ∀ session, IgnoresFrames (next session)) :
    IgnoresFrames (MonadState.get >>= next) :=
  fun session others => .get (same session others) (continues session session others)

/-- What is done in frames of its own ignores those outside. -/
theorem ignores_withFrames (frames : List Value) (inner : Render α) :
    IgnoresFrames (withFrames frames inner) :=
  fun _ _ => rfl

/-- Displaying a value ignores the frames. -/
theorem ignores_displayed (value : Value) : IgnoresFrames (displayed value) :=
  ignores_get (fun _ _ => rfl) fun _ => ignores_pure _

/-! ## Calls -/

/-- What comes of a behaviour ignores the frames if what is rendered for it does. -/
theorem ignores_run {address : Nat} {callback : Callback}
    (renders : ∀ text, IgnoresFrames (callback text)) (behaviour : Behaviour) :
    IgnoresFrames (behaviour.run address callback) := by
  induction behaviour with
  | returns value => exact ignores_pure value
  | raises message => exact ignores_throw _
  | counts next inductionHypothesis =>
    exact ignores_get (fun _ _ => rfl) fun _ => inductionHypothesis _
  | renders text next inductionHypothesis => exact (renders text).bind inductionHypothesis
  | tries text next inductionHypothesis => exact (renders text).attempt.bind inductionHypothesis
  | reads place name next inductionHypothesis =>
    exact ignores_get (fun _ _ => rfl) fun _ => inductionHypothesis _
  | writes place name value next inductionHypothesis =>
    exact IgnoresFrames.bind (fun _ _ => rfl) fun _ => inductionHypothesis

/-- Calling a lambda ignores the frames if what is rendered for it does. -/
theorem ignores_callLambda (address : Nat) (raw : Text) {callback : Callback}
    (renders : ∀ text, IgnoresFrames (callback text)) :
    IgnoresFrames (callLambda address raw callback) := by
  unfold callLambda
  refine IgnoresFrames.bind (fun _ _ => rfl) fun _ =>
    ignores_get (fun _ _ => rfl) fun session => ?_
  split
  · exact ignores_throw _
  · exact ignores_run renders _

/-- Asking an object for what it has ignores the frames. -/
theorem ignores_ownMember (object : Value) (name : Text) :
    IgnoresFrames (ownMember object name) := by
  unfold ownMember
  refine ignores_get (fun _ _ => rfl) fun session => ?_
  split
  · exact ignores_pure _
  · exact ignores_pure _
  · exact ignores_throw _

/-- Calling a function of a built-in value ignores the frames. -/
theorem ignores_callBuiltIn (given : Nat) (raw : Text) (function : BuiltIn) :
    IgnoresFrames (callBuiltIn given raw function) := by
  unfold callBuiltIn callOfSet
  repeat' split
  all_goals exact fun _ _ => rfl

/-- A call ignores the frames if what is rendered for it does. -/
theorem ignores_call (value : Value) (given : Nat) (raw : Text) {callback : Callback}
    (renders : ∀ text, IgnoresFrames (callback text)) :
    IgnoresFrames (call value given raw callback) := by
  unfold call
  split
  · exact ignores_callLambda _ raw renders
  · exact ignores_callBuiltIn given raw _
  · unfold callObject
    repeat' split
    all_goals first
      | exact ignores_pure _
      | exact ignores_throw _
      | exact ignores_ownMember _ _
  · exact ignores_throw _

/-- A call for which nothing is rendered ignores the frames. -/
theorem ignores_callAlone (value : Value) (given : Nat) (raw : Text) :
    IgnoresFrames (call value given raw Callback.none) :=
  ignores_call value given raw fun _ => ignores_throw _

/-! ## Views -/

/-- Reading a file ignores the frames. -/
theorem ignores_fileText (path : Path) : IgnoresFrames (View.fileText path) := by
  unfold View.fileText
  refine ignores_get (fun _ _ => rfl) fun session => ?_
  split
  · exact ignores_pure _
  · exact (ignores_note _).bind fun _ => ignores_pure _
  · exact ignores_throw _

/-- Asking a view for a text ignores the frames. -/
theorem ignores_storedText (view : Value) (name : String) :
    IgnoresFrames (View.storedText view name) := by
  unfold View.storedText
  refine (ignores_ownMember view _).bind fun value => ?_
  split
  · exact ignores_pure _
  · exact ignores_throw _

/-- Calling a method of a view ignores the frames if calling its own one does. -/
theorem ignores_callMethod (view : Value) (name : String) {own : ViewMethod → Render Value}
    (owns : ∀ method, IgnoresFrames (own method)) :
    IgnoresFrames (View.callMethod view name own) := by
  unfold View.callMethod
  refine ignores_get (fun _ _ => rfl) fun session => ?_
  split
  · exact ignores_pure _
  · exact ignores_throw _
  · exact ignores_ownMember view _
  · exact owns _
  · exact ignores_callAlone _ 0 []
  · exact ignores_throw _

/-- Finding the file name of a view ignores the frames. -/
theorem ignores_fileName (view : Value) (className : Text) :
    IgnoresFrames (View.fileName view className) := by
  unfold View.fileName
  refine (ignores_ownMember view _).bind fun file => ignores_get (fun _ _ => rfl) fun session => ?_
  dsimp only
  split
  · exact ignores_pure _
  · refine (ignores_ownMember view _).bind fun space => ?_
    have completes (name : Text) : IgnoresFrames (do
        let extension ← View.storedText view "template_extension"
        return Value.text (View.classPath name ++ .of "." ++ extension)) :=
      (ignores_storedText view _).bind fun _ => ignores_pure _
    split
    · split
      · exact (ignores_pure _).bind completes
      · exact (ignores_throw _).bind completes
    · exact (ignores_pure _).bind completes

/-- Finding the template of a view ignores the frames. -/
theorem ignores_viewTemplate (view : Value) : IgnoresFrames (View.template view) := by
  unfold View.template
  refine (ignores_storedText view _).bind fun directory => ?_
  refine (ignores_callMethod view _ fun method => ?_).bind fun name => ?_
  · split
    · exact ignores_fileName view _
    · exact ignores_throw _
  · split
    · exact ignores_fileText _
    · exact ignores_throw _

/-- Asking for the text of a template ignores the frames. -/
theorem ignores_templateText (template : Value) : IgnoresFrames (templateText template) := by
  unfold templateText
  repeat' split
  all_goals exact fun _ _ => rfl

/-- Finding the template of a view, or the one given, ignores the frames. -/
theorem ignores_templateOrOwn (self template : Value) :
    IgnoresFrames (templateOrOwn self template) := by
  cases template with
  | null =>
    refine ignores_callMethod self _ fun method => ?_
    cases method with
    | template => exact (ignores_viewTemplate self).bind fun _ => ignores_pure _
    | _ => exact ignores_throw _
  | _ => exact ignores_pure _

/-- Finding the partials of a view, or those given, ignores the frames. -/
theorem ignores_partialsOrOwn (self partials : Value) :
    IgnoresFrames (partialsOrOwn self partials) := by
  cases partials with
  | null =>
    refine ignores_get (fun _ _ => rfl) fun session => ?_
    split
    · exact ignores_pure _
    · exact ignores_pure _
    · exact ignores_pure _
  | _ => exact ignores_pure _

/-- Rendering a view ignores the frames. -/
theorem ignores_view (deeper : Deeper) (self template data partials : Value) :
    IgnoresFrames (view deeper self template data partials) := by
  rw [view_eq]
  refine (ignores_templateOrOwn self _).bind fun chosen => ?_
  refine (ignores_partialsOrOwn self partials).bind fun source => ?_
  exact (ignores_templateText chosen).bind fun text => ignores_withFrames _ _

/-- Computing what a method computes ignores the frames. -/
theorem ignores_compute (deeper : Deeper) (self : Value) (method : Method) :
    IgnoresFrames (compute deeper self method) := by
  unfold compute
  split
  · exact ignores_pure _
  · exact ignores_throw _
  · exact ignores_ownMember self _
  · exact (ignores_viewTemplate self).bind fun _ => ignores_pure _
  · exact ignores_fileName self _
  · exact (ignores_view deeper self .null .null .null).bind fun _ => ignores_pure _
  · exact ignores_throw _
  · exact IgnoresFrames.bind (fun _ _ => rfl) fun _ => ignores_pure _
  · exact ignores_throw _

/-- What a frame offers as a member ignores the other frames. -/
theorem ignores_memberValue (deeper : Deeper) (frame : Value) (member : Member) :
    IgnoresFrames (memberValue deeper frame member) := by
  cases member with
  | stored value => exact ignores_pure value
  | computed method => exact ignores_compute deeper frame method

end Stencil.Render
