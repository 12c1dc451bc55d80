import Stencil.Proofs.Render.Conduct
import Stencil.Proofs.Render.Outcome
import Stencil.Proofs.Value.Face

/-!
# Rendering in a mirror

Two sessions go side by side: one, and a mirror image of it in which only the faces of values are
there, and in which there may be other frames than in the first as long as they are frames in which
no name is looked up (`Session.Mirrors`). A computation that rendering consists of does the same in
both: it fails in the same way or comes to a result and the image of the result, and it leaves a
session and its mirror image (`Render.Mirrors`). Here this is shown of computations in general, and
of those that have nothing rendered.
-/

namespace Stencil

/-- Whether names are looked up in a frame. -/
def Value.isContext (frame : Value) : Bool :=
  frame.kind = .mapping ∨ frame.kind = .object

/-- Whether names are looked up in a frame is seen. -/
theorem Value.isContext_face (sight : Sight) (frame : Value) :
    (frame.face sight).isContext = frame.isContext := by
  simp [isContext]

/-- What is seen of where the texts of inclusions come from. -/
def Partials.face (sight : Sight) : Partials → Partials
  | .absent => .absent
  | .called function => .called (function.face sight)
  | .held holder => .held (holder.face sight)
  | .filesOf view => .filesOf (view.face sight)

/-- A value as the source of inclusions is seen. -/
theorem Partials.face_ofValue {sight : Sight} (value : Value) :
    (Partials.ofValue value).face sight = Partials.ofValue (value.face sight) := by
  cases value with
  | null => rfl
  | object members shown truth role => cases role <;> rfl
  | _ => rfl

/-- Frames and a mirror image of them. -/
def Context.Mirrors (sight : Sight) (frames image : List Value) : Prop :=
  image.filter Value.isContext = (frames.filter Value.isContext).map (Value.face sight)

/-- Without frames there are none in the mirror image. -/
theorem Context.Mirrors.nil {sight : Sight} : Context.Mirrors sight [] [] :=
  rfl

/-- The same frame and its face can be put in front of frames and their mirror image. -/
theorem Context.Mirrors.cons {sight : Sight} {frames image : List Value}
    (mirrored : Context.Mirrors sight frames image) (frame : Value) :
    Context.Mirrors sight (frame :: frames) (frame.face sight :: image) := by
  unfold Context.Mirrors at mirrored ⊢
  rw [List.filter_cons, List.filter_cons, Value.isContext_face, mirrored]
  split <;> rfl

/-- A session and a mirror image of it. -/
structure Session.Mirrors (sight : Sight) (session image : Session) : Prop where
  store : image.store = session.store.face sight
  frames : Context.Mirrors sight session.frames image.frames
  files : image.files = session.files
  log : image.log = session.log

/-- What is seen of a session. -/
def Session.face (sight : Sight) (session : Session) : Session :=
  { session with
    store := session.store.face sight
    frames := session.frames.map (Value.face sight) }

namespace Session.Mirrors

variable {sight : Sight} {session image : Session} (mirrored : session.Mirrors sight image)

include mirrored

/-- The truth of a value is that of its face in the mirror image. -/
theorem truth (value : Value) :
    (value.face sight).truth image.store = value.truth session.store := by
  rw [mirrored.store, Value.truth_face]

/-- What is output for a value is output for its face in the mirror image. -/
theorem display (value : Value) :
    (value.face sight).display image.store = value.display session.store := by
  rw [mirrored.store, Value.display_face]

/-- How a value is shown is shown of it in the mirror image. -/
theorem describe (value : Value) : value.describe image.store = value.describe session.store := by
  rw [mirrored.store]
  exact congrArg (Value.describeWith · value) (Store.allReferences_face sight session.store)

/-- Under a name that is seen the face of an object offers the face of the member. -/
theorem member? (value : Value) {name : Text} (isShown : value.shows sight name = true) :
    (value.face sight).member? image.store name =
      (value.member? session.store name).map (Member.faceIn sight value) := by
  rw [mirrored.store, Value.member?_face sight session.store value isShown]

/-- What a mapping shows under a name is shown in the mirror image. -/
theorem shownUnder (address : Nat) (name : Text) :
    image.store.shownUnder address name = session.store.shownUnder address name := by
  have same : (fun value : Value => (value.face sight).display (session.store.face sight)) =
      fun value => value.display session.store :=
    funext (Value.display_face sight session.store)
  unfold Store.shownUnder
  rw [mirrored.store, Store.entries_face, Value.lookup_facesUnder, Option.map_map]
  exact congrArg (Option.map · _) same

end Session.Mirrors

/-- How often a lambda has been called is seen. -/
theorem Store.calls_face (sight : Sight) (store : Store) (address : Nat) :
    (store.face sight).calls address = store.calls address := by
  unfold Store.calls
  rw [Store.lambdas_face]
  cases store.lambdas[address]? <;> rfl

namespace SetFunction

/-- Whether something is the text of one code point is seen. -/
theorem isItem_face (sight : Sight) (item : Value) (point : CodePoint) :
    isItem (item.face sight) point = isItem item point := by
  cases item <;> rfl

/-- What is put into a set is seen. -/
theorem faces_insert (sight : Sight) (items : List Value) (point : CodePoint) :
    Value.faces sight (insert items point) = insert (Value.faces sight items) point := by
  have same : (Value.faces sight items).any (isItem · point) = items.any (isItem · point) := by
    simp [Function.comp_def, isItem_face]
  unfold insert
  rw [same]
  split <;> rfl

/-- Whatever is put into a set is seen. -/
theorem faces_foldl_insert (sight : Sight) (points : Text) (items : List Value) :
    Value.faces sight (points.foldl insert items) =
      points.foldl insert (Value.faces sight items) := by
  induction points generalizing items with
  | nil => rfl
  | cons point points inductionHypothesis =>
    rw [List.foldl_cons, List.foldl_cons, inductionHypothesis, faces_insert]

/-- What is left of a set without some items is seen. -/
theorem faces_filter (sight : Sight) (points : Text) (items : List Value) :
    Value.faces sight (items.filter fun item => !points.any (isItem item)) =
      (Value.faces sight items).filter fun item => !points.any (isItem item) := by
  have same (item : Value) : isItem (item.face sight) = isItem item :=
    funext (isItem_face sight item)
  simp only [Value.faces_eq_map, List.filter_map, Function.comp_def, same]

end SetFunction

namespace Render

variable {α β γ δ : Type} {sight : Sight}

/-- Results and images of them, or the same failure twice. -/
inductive Outcome (reflects : α → β → Prop) : Except Failure α → Except Failure β → Prop where
  | ok {result image} (same : reflects result image) : Outcome reflects (.ok result) (.ok image)
  | error (failure : Failure) : Outcome reflects (.error failure) (.error failure)

/-- If texts are their own images, the outcome is the same. -/
theorem Outcome.eq {result image : Except Failure Text} (outcome : Outcome Eq result image) :
    result = image := by
  cases outcome with
  | ok same => rw [same]
  | error failure => rfl

/-- A computation and its mirror image do the same. They leave the frames as they were. -/
def Mirrors (sight : Sight) (reflects : α → β → Prop) (computation : Render α)
    (image : Render β) : Prop :=
  ∀ session other : Session, session.Mirrors sight other →
    Outcome reflects (computation session).1 (image other).1 ∧
      (computation session).2.Mirrors sight (image other).2 ∧
      (computation session).2.frames = session.frames ∧ (image other).2.frames = other.frames

/-- A value and its face. -/
def Shows (sight : Sight) (value image : Value) : Prop :=
  image = value.face sight

/-! ## Computations in general -/

/-- Doing nothing is mirrored. -/
theorem mirrors_pure {reflects : α → β → Prop} {result : α} {image : β}
    (same : reflects result image) : Mirrors sight reflects (pure result) (pure image) :=
  fun _ _ mirrored => ⟨.ok same, mirrored, rfl, rfl⟩

/-- Failing is mirrored. -/
theorem mirrors_throw {reflects : α → β → Prop} (failure : Failure) :
    Mirrors sight reflects (throw failure) (throw failure) :=
  fun _ _ mirrored => ⟨.error failure, mirrored, rfl, rfl⟩

/-- Looking at the session is mirrored. -/
theorem mirrors_get : Mirrors sight (Session.Mirrors sight) get get :=
  fun _ _ mirrored => ⟨.ok mirrored, mirrored, rfl, rfl⟩

/-- A change of all but the frames is mirrored if the store, the files and the log that it comes to
are. -/
theorem mirrors_modify {change : Session → Session}
    (mirrors : ∀ session other : Session, session.Mirrors sight other →
      (change session).Mirrors sight (change other))
    (keeps : ∀ session, (change session).frames = session.frames) :
    Mirrors sight Eq (modify change : Render Unit) (modify change) :=
  fun session other mirrored =>
    ⟨.ok rfl, mirrors session other mirrored, keeps session, keeps other⟩

/-- One computation after the other is mirrored if both are. -/
theorem Mirrors.bind {reflects : α → β → Prop} {reflectsNext : γ → δ → Prop}
    {first : Render α} {image : Render β} {next : α → Render γ} {imageNext : β → Render δ}
    (begins : Mirrors sight reflects first image)
    (continues : ∀ result other, reflects result other →
      Mirrors sight reflectsNext (next result) (imageNext other)) :
    Mirrors sight reflectsNext (first >>= next) (image >>= imageNext) := by
  intro session other mirrored
  obtain ⟨outcome, mirroredAfter, sameFrames, sameImageFrames⟩ := begins session other mirrored
  cases ran : first session with
  | mk result after =>
    cases ranImage : image other with
    | mk imageResult imageAfter =>
      rw [ran, ranImage] at outcome
      rw [ran, ranImage] at mirroredAfter
      rw [ran] at sameFrames
      rw [ranImage] at sameImageFrames
      cases outcome with
      | ok same =>
        rw [bind_of_ok ran, bind_of_ok ranImage]
        obtain ⟨outcome, mirroredLast, keepsFrames, keepsImageFrames⟩ :=
          continues _ _ same after imageAfter mirroredAfter
        exact ⟨outcome, mirroredLast, keepsFrames.trans sameFrames,
          keepsImageFrames.trans sameImageFrames⟩
      | error failure =>
        rw [bind_of_error ran, bind_of_error ranImage]
        exact ⟨.error failure, mirroredAfter, sameFrames, sameImageFrames⟩

/-- A computation whose failure is passed over is mirrored. -/
theorem Mirrors.attempt {inner image : Render Text} (mirrors : Mirrors sight Eq inner image) :
    Mirrors sight Eq (attempt inner) (attempt image) := by
  intro session other mirrored
  obtain ⟨outcome, mirroredAfter, sameFrames, sameImageFrames⟩ := mirrors session other mirrored
  exact ⟨.ok (congrArg Except.toOption outcome.eq), mirroredAfter, sameFrames, sameImageFrames⟩

/-- A computation with one more frame is mirrored with the face of the frame. -/
theorem Mirrors.withFrame {reflects : α → β → Prop} {inner : Render α} {image : Render β}
    (mirrors : Mirrors sight reflects inner image) (frame : Value) :
    Mirrors sight reflects (withFrame frame inner) (withFrame (frame.face sight) image) := by
  intro session other mirrored
  have inside : ({ session with frames := frame :: session.frames } : Session).Mirrors sight
      { other with frames := frame.face sight :: other.frames } :=
    ⟨mirrored.store, mirrored.frames.cons frame, mirrored.files, mirrored.log⟩
  obtain ⟨outcome, mirroredAfter, sameFrames, sameImageFrames⟩ := mirrors _ _ inside
  have framesAfter : Context.Mirrors sight
      (inner { session with frames := frame :: session.frames }).2.frames.tail
      (image { other with frames := frame.face sight :: other.frames }).2.frames.tail := by
    rw [sameFrames, sameImageFrames]
    exact mirrored.frames
  exact ⟨outcome, ⟨mirroredAfter.store, framesAfter, mirroredAfter.files, mirroredAfter.log⟩,
    congrArg List.tail sameFrames, congrArg List.tail sameImageFrames⟩

/-- A computation in frames of its own is mirrored in a mirror image of these. -/
theorem Mirrors.withFrames {reflects : α → β → Prop} {inner : Render α} {image : Render β}
    (mirrors : Mirrors sight reflects inner image) {frames others : List Value}
    (mirroredFrames : Context.Mirrors sight frames others) :
    Mirrors sight reflects (withFrames frames inner) (withFrames others image) := by
  intro session other mirrored
  have inside : ({ session with frames := frames } : Session).Mirrors sight
      { other with frames := others } :=
    ⟨mirrored.store, mirroredFrames, mirrored.files, mirrored.log⟩
  obtain ⟨outcome, mirroredAfter, -, -⟩ := mirrors _ _ inside
  exact ⟨outcome, ⟨mirroredAfter.store, mirrored.frames, mirroredAfter.files, mirroredAfter.log⟩,
    rfl, rfl⟩

/-! ## What renders nothing -/

/-- Adding a log line is mirrored. -/
theorem mirrors_note (event : LogEvent) : Mirrors sight Eq (note event) (note event) :=
  mirrors_modify (fun _ _ mirrored => ⟨mirrored.store, mirrored.frames, mirrored.files,
    congrArg (event :: ·) mirrored.log⟩) fun _ => rfl

/-- Parsing a template is mirrored. -/
theorem mirrors_parse (delimiters : Delimiters) (text : Text) :
    Mirrors sight Eq (parse delimiters text) (parse delimiters text) := by
  intro session other mirrored
  obtain ⟨store, frames, files, log⟩ := other
  obtain ⟨rfl, sameFrames, rfl, rfl⟩ := mirrored
  refine ⟨?_, ⟨rfl, sameFrames, rfl, rfl⟩, rfl, rfl⟩
  change Outcome Eq ((session.store.cache.parse delimiters text).result.mapError .malformed)
    ((session.store.cache.parse delimiters text).result.mapError .malformed)
  cases (session.store.cache.parse delimiters text).result with
  | error error => exact .error _
  | ok nodes => exact .ok rfl

/-- A change of the cache alone is mirrored. -/
theorem mirrors_cache (change : Cache → Cache) :
    Mirrors sight Eq
      (modify fun session =>
        { session with store := { session.store with cache := change session.store.cache } } :
        Render Unit)
      (modify fun session =>
        { session with store := { session.store with cache := change session.store.cache } }) := by
  refine mirrors_modify (fun session other mirrored => ⟨?_, mirrored.frames, mirrored.files,
    mirrored.log⟩) fun _ => rfl
  rw [mirrored.store]
  rfl

/-- The text of a template is mirrored. -/
theorem mirrors_templateText (template : Value) :
    Mirrors sight Eq (templateText template) (templateText (template.face sight)) := by
  have refuses : Mirrors sight Eq
      (do
        if template.isFixed then
          modify fun session =>
            { session with store := { session.store with cache := session.store.cache.miss } }
        throw Failure.unfit : Render Text)
      (do
        if (template.face sight).isFixed then
          modify fun session =>
            { session with store := { session.store with cache := session.store.cache.miss } }
        throw Failure.unfit) := by
    rw [Value.isFixed_face]
    split
    · exact (mirrors_cache Cache.miss).bind fun _ _ _ => mirrors_throw _
    · exact mirrors_throw _
  cases template with
  | text content => exact mirrors_pure rfl
  | _ => exact refuses

/-- Displaying a value is mirrored. -/
theorem mirrors_displayed (value : Value) :
    Mirrors sight Eq (displayed value) (displayed (value.face sight)) :=
  mirrors_get.bind fun session other mirrored => by
    rw [mirrored.display]
    exact mirrors_pure rfl

/-- A change of a set is mirrored if the change is. -/
theorem mirrors_changeSet (address : Nat) {change : List Value → List Value}
    (commutes : ∀ items, Value.faces sight (change items) = change (Value.faces sight items)) :
    Mirrors sight Eq (changeSet address change) (changeSet address change) := by
  refine mirrors_modify (fun session other mirrored => ⟨?_, mirrored.frames, mirrored.files,
    mirrored.log⟩) fun _ => rfl
  rw [mirrored.store, Store.face_changeSet _ _ _ commutes]

/-- A call of a function of a set is mirrored. -/
theorem mirrors_callOfSet (function : SetFunction) (address given : Nat) (raw : Text) :
    Mirrors sight (Shows sight) (callOfSet function address given raw)
      (callOfSet function address given raw) := by
  unfold callOfSet
  split
  · refine (mirrors_changeSet address ?_).bind fun _ _ _ => mirrors_pure rfl
    exact fun items => rfl
  · exact mirrors_pure rfl
  · exact mirrors_throw _
  · refine (mirrors_changeSet address ?_).bind fun _ _ _ => mirrors_throw _
    exact fun items => SetFunction.faces_foldl_insert sight raw items
  · refine (mirrors_changeSet address ?_).bind fun _ _ _ => mirrors_throw _
    exact fun items => SetFunction.faces_filter sight raw items
  · exact mirrors_throw _

/-- What an object has under a name that is seen is mirrored. -/
theorem mirrors_ownMember {object : Value} {name : Text}
    (isShown : object.shows sight name = true) :
    Mirrors sight (Shows sight) (ownMember object name) (ownMember (object.face sight) name) := by
  refine mirrors_get.bind fun session other mirrored => ?_
  rw [mirrored.member? object isShown]
  cases object.member? session.store name with
  | none => exact mirrors_throw _
  | some member =>
    cases member with
    | stored value => exact mirrors_pure rfl
    | computed method => exact mirrors_pure rfl

/-- An object is asked for what it does not have. -/
theorem ownMember_of_lacking {object : Value} {name : Text}
    (lacks : ∀ store, object.member? store name = none) :
    ownMember object name = throw .lacking := by
  funext session
  unfold ownMember
  rw [bind_of_get, lacks]

/-- An object is asked for what it has. -/
theorem ownMember_of_member {object : Value} {name : Text} {member : Member}
    (has : ∀ store, object.member? store name = some member) :
    ownMember object name = pure member.asValue := by
  funext session
  unfold ownMember
  rw [bind_of_get, has]
  cases member <;> rfl

/-- A method that answers with what its object has under a name is seen to do so, or it is seen what
it answers. -/
theorem own_cases (object : Value) (name : Text) :
    (Method.faceIn sight object (.own name) = .own name ∧
      Mirrors sight (Shows sight) (ownMember object name) (ownMember (object.face sight) name)) ∨
    ∃ answer, Method.faceIn sight object (.own name) = .returns answer ∧
      Mirrors sight (Shows sight) (ownMember object name) (pure answer) := by
  cases isShown : object.shows sight name with
  | true => exact .inl ⟨Method.faceIn_own_of_shows sight isShown, mirrors_ownMember isShown⟩
  | false =>
    cases object with
    | object members shown truth role =>
      have offered := @Value.member?_of_unseen sight role name isShown members shown truth
      cases held : members.lookup name with
      | none =>
        refine .inl ⟨Method.faceIn_own_of_absent sight held shown truth role, ?_⟩
        have faceLacks (store : Store) :
            ((Value.object members shown truth role).face sight).member? store name = none := by
          rw [Value.face, Value.member?_of_unseen sight isShown, Member.lookup_seen]
          exact if_neg (Bool.eq_false_iff.mp isShown)
        rw [ownMember_of_lacking fun store => (offered store).trans held,
          ownMember_of_lacking faceLacks]
        exact mirrors_throw _
      | some member =>
        refine .inr ⟨_, Method.faceIn_own_of_unseen sight isShown held shown truth, ?_⟩
        rw [ownMember_of_member fun store => (offered store).trans held]
        exact mirrors_pure rfl
    | _ => cases isShown

/-- A call of an object is mirrored. -/
theorem mirrors_callObject (members : List (Text × Member)) (shown : Text) (truth : Bool)
    (role : Role) (given : Nat) :
    Mirrors sight (Shows sight)
      (callObject (.object members shown truth role) members role given)
      (callObject ((Value.object members shown truth role).face sight)
        (Member.seen sight role (Member.faces sight members)) role given) := by
  unfold callObject
  split
  · refine mirrors_pure (congrArg (Value.object · _ _ _) ?_)
    exact (Member.seen_made sight _).symm
  · rw [Member.lookup_seen, if_pos sight.sees_call, Member.lookup_faces]
    cases members.lookup (.of "__call__") with
    | none => exact mirrors_throw _
    | some member =>
      cases member with
      | stored value => exact mirrors_throw _
      | computed method =>
        cases method with
        | returns value => exact mirrors_pure rfl
        | own name =>
          have seen : Member.opened sight .callable (Member.faces sight members)
              (Member.face sight (.computed (.own name))) = .computed
                (Method.faceIn sight (.object members shown truth .callable) (.own name)) := rfl
          obtain ⟨same, mirrors⟩ | ⟨answer, same, mirrors⟩ :=
            @own_cases sight (.object members shown truth .callable) name
          · simp only [Option.map_some, seen, same]
            exact mirrors
          · simp only [Option.map_some, seen, same]
            exact mirrors
        | _ => exact mirrors_throw _
  · exact mirrors_throw _

/-- A call of a function that a value brings along is mirrored. -/
theorem mirrors_callBuiltIn (given : Nat) (raw : Text) (function : BuiltIn) :
    Mirrors sight (Shows sight) (callBuiltIn given raw function)
      (callBuiltIn given raw function) := by
  cases function with
  | refusing => exact mirrors_throw _
  | ofSet function address => exact mirrors_callOfSet function address given raw

/-- Writing a value is mirrored. -/
theorem mirrors_write (address : Nat) (name : Text) (value : Value) :
    Mirrors sight Eq (write address name value) (write address name (value.face sight)) := by
  intro session other mirrored
  refine ⟨.ok rfl, ⟨?_, mirrored.frames, mirrored.files, mirrored.log⟩, rfl, rfl⟩
  change other.store.write address name (value.face sight) = _
  rw [mirrored.store]
  exact (Store.face_write sight session.store address name value).symm

/-- Writing over a lambda is mirrored. -/
theorem mirrors_remember (frame : Option Value) (name text : Text) :
    Mirrors sight Eq (remember frame name text)
      (remember (frame.map (Value.face sight)) name text) := by
  cases frame with
  | none => exact mirrors_pure rfl
  | some frame =>
    cases frame with
    | mapping address => exact mirrors_write address name (.text text)
    | _ => exact mirrors_pure rfl

/-! ## Views -/

/-- Reading a file is mirrored. -/
theorem mirrors_fileText (path : Path) :
    Mirrors sight Eq (View.fileText path) (View.fileText path) := by
  unfold View.fileText
  refine mirrors_get.bind fun session other mirrored => ?_
  rw [mirrored.files]
  split
  · exact mirrors_pure rfl
  · exact (mirrors_note _).bind fun _ _ _ => mirrors_pure rfl
  · exact mirrors_throw _

section View

variable {view : Value}

/-- What a view has under a public name is mirrored. -/
theorem mirrors_stored {name : String} (isPublic : isPrivate (.of name) = false) :
    Mirrors sight (Shows sight) (View.stored view name) (View.stored (view.face sight) name) :=
  mirrors_ownMember (Value.shows_of_public sight view isPublic)

/-- A text that a view stores is mirrored. -/
theorem mirrors_storedText {name : String} (isPublic : isPrivate (.of name) = false) :
    Mirrors sight Eq (View.storedText view name) (View.storedText (view.face sight) name) := by
  refine (mirrors_stored isPublic).bind ?_
  rintro value - rfl
  cases value with
  | text content => exact mirrors_pure rfl
  | _ => exact mirrors_throw _

/-- The name of a view's template file is mirrored. -/
theorem mirrors_fileName (className : Text) :
    Mirrors sight (Shows sight) (View.fileName view className)
      (View.fileName (view.face sight) className) := by
  unfold View.fileName
  refine (mirrors_stored (by decide)).bind ?_
  rintro file - rfl
  refine mirrors_get.bind fun session other mirrored => ?_
  dsimp only
  rw [mirrored.truth]
  split
  · exact mirrors_pure rfl
  · refine (mirrors_stored (by decide)).bind ?_
    rintro space - rfl
    have continues (name : Text) : Mirrors sight (Shows sight)
        (do
          let extension ← View.storedText view "template_extension"
          return .text (View.classPath name ++ .of "." ++ extension))
        (do
          let extension ← View.storedText (view.face sight) "template_extension"
          return .text (View.classPath name ++ .of "." ++ extension)) := by
      refine (mirrors_storedText (by decide)).bind ?_
      rintro extension - rfl
      exact mirrors_pure rfl
    rw [mirrored.truth]
    split
    · cases space with
      | text content => exact continues (View.withoutNamespace content className)
      | _ => exact mirrors_throw _
    · exact continues className

/-- The text of a view's partial is mirrored. -/
theorem mirrors_viewPartialText (name : Text) :
    Mirrors sight Eq (View.partialText view name) (View.partialText (view.face sight) name) := by
  unfold View.partialText
  refine (mirrors_storedText (by decide)).bind ?_
  rintro directory - rfl
  refine mirrors_get.bind fun session other mirrored => ?_
  dsimp only
  rw [mirrored.member? view (Value.shows_of_public sight view (by decide))]
  cases view.member? session.store (.of "template_extension") with
  | none => exact mirrors_fileText _
  | some member =>
    cases member with
    | stored value =>
      have sameExtension : (value.face sight).shown other.store = value.shown session.store := by
        rw [mirrored.store, Value.shown_face]
      simp only [Option.map_some, Member.faceIn, sameExtension]
      exact mirrors_fileText _
    | computed method => exact mirrors_fileText _

end View

/-- Finding where inclusions come from is mirrored. -/
theorem mirrors_partialsOf (view : Value) :
    Mirrors sight (fun partials other => other = partials.face sight) (partialsOf view)
      (partialsOf (view.face sight)) := by
  refine mirrors_get.bind fun session other mirrored => ?_
  rw [mirrored.member? view (Value.shows_of_public sight view (by decide))]
  cases view.member? session.store (.of "partial") with
  | none => exact mirrors_pure rfl
  | some member =>
    cases member with
    | stored value => exact mirrors_pure (Partials.face_ofValue value).symm
    | computed method =>
      cases method with
      | ofView method => cases method <;> exact mirrors_pure rfl
      | own name =>
        obtain ⟨same, -⟩ | ⟨value, same, -⟩ := @own_cases sight view name
        · simp only [Option.map_some, Member.faceIn, same]
          exact mirrors_pure rfl
        · simp only [Option.map_some, Member.faceIn, same]
          exact mirrors_pure rfl
      | _ => exact mirrors_pure rfl

/-- Finding the partials of a view is mirrored. -/
theorem mirrors_partialsOrOwn (self partials : Value) :
    Mirrors sight (fun source other => other = source.face sight) (partialsOrOwn self partials)
      (partialsOrOwn (self.face sight) (partials.face sight)) := by
  cases partials with
  | null => exact mirrors_partialsOf self
  | _ => exact mirrors_pure (Partials.face_ofValue _).symm

/-- Which one is the template and which one is the data is seen. -/
theorem templateAndData_face (template data : Value) :
    templateAndData (template.face sight) (data.face sight) =
      ((templateAndData template data).1.face sight,
        (templateAndData template data).2.face sight) := by
  cases template with
  | null => rfl
  | text content => rfl
  | _ => cases data <;> rfl

/-- Whether a view is rendered with itself as the data is seen. -/
theorem dataOrSelf_face (self data : Value) :
    dataOrSelf (self.face sight) (data.face sight) = (dataOrSelf self data).face sight := by
  cases data <;> rfl

/-! ## Looking names up -/

/-- The frames in which names are looked up are the only ones that hold anything. -/
theorem find?_filter (store : Store) (name : Text) (frames : List Value) :
    (Context.find? store name (frames.filter Value.isContext)).map Prod.snd =
      (Context.find? store name frames).map Prod.snd := by
  induction frames with
  | nil => rfl
  | cons frame frames inductionHypothesis =>
    rw [List.filter_cons]
    split
    · unfold Context.find?
      cases frame.holding? store name with
      | some member => rfl
      | none =>
        rw [Option.map_map, Option.map_map]
        exact inductionHypothesis
    · rename_i noContext
      have holdsNothing : frame.holding? store name = none := by
        simp only [Value.isContext, decide_eq_true_eq, not_or] at noContext
        rw [Value.holding?_of_kind_ne noContext.1, if_neg fun holds => noContext.2 holds.1]
      rw [inductionHypothesis]
      conv_rhs => unfold Context.find?
      rw [holdsNothing, Option.map_map]
      rfl

/-- What is found in frames is found in their faces. -/
theorem find?_face (store : Store) (name : Text) (frames : List Value) :
    (Context.find? (store.face sight) name (frames.map (Value.face sight))).map Prod.snd =
      ((Context.find? store name frames).map Prod.snd).map fun found =>
        (found.1.face sight, found.2.faceIn sight found.1) := by
  induction frames with
  | nil => rfl
  | cons frame frames inductionHypothesis =>
    rw [List.map_cons]
    unfold Context.find?
    rw [Value.holding?_face]
    cases frame.holding? store name with
    | some member => rfl
    | none =>
      simp only [Option.map_none, Option.map_map] at inductionHypothesis ⊢
      exact inductionHypothesis

/-- What is found in frames is found in a mirror image of them. -/
theorem find?_mirrors {session other : Session} (mirrored : session.Mirrors sight other)
    {frames others : List Value} (mirroredFrames : Context.Mirrors sight frames others)
    (name : Text) :
    (Context.find? other.store name others).map Prod.snd =
      ((Context.find? session.store name frames).map Prod.snd).map fun found =>
        (found.1.face sight, found.2.faceIn sight found.1) := by
  rw [← find?_filter, mirroredFrames, mirrored.store, find?_face, find?_filter]

/-- A frame and its face, if the value that it holds is a lambda, and the face of the value. -/
def ShowsFound (sight : Sight) (found image : Option Value × Value) : Prop :=
  Shows sight found.2 image.2 ∧
    (found.2.kind = .lambda → image.1 = found.1.map (Value.face sight))

end Render

end Stencil
