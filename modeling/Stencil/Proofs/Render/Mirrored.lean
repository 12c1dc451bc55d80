import Stencil.Proofs.Render.Calls
import Stencil.Proofs.Render.Mirror

/-!
# Everything is mirrored

Whatever rendering a template consists of is mirrored, and so are the calls that it makes
(`Recorded.Mirrors`): finding the texts of a view, looking names up, evaluating lambdas and
rendering nodes. So rendering is mirrored, however deep it goes (`Recorded.mirrors_generate`), and
so is a template that is rendered with data (`Render.mirrors_template`). What comes out does not
depend on what is not seen.
-/

namespace Stencil

/-- What is seen of a call. -/
def LambdaCall.face (sight : Sight) (call : LambdaCall) : LambdaCall where
  function := call.function.face sight
  isLambda := (Value.kind_face sight call.function).trans call.isLambda
  given := call.given
  raw := call.raw

namespace Recorded

open Render (Shows ShowsFound)

variable {α β γ δ : Type} {sight : Sight}

/-- A computation and its mirror image do the same and make the same calls. -/
structure Mirrors (sight : Sight) (reflects : α → β → Prop) (computation : Recorded α)
    (image : Recorded β) : Prop where
  run : Render.Mirrors sight reflects computation.run image.run
  calls : ∀ session other : Session, session.Mirrors sight other →
    image.calls other = (computation.calls session).map (LambdaCall.face sight)

/-! ## Computations in general -/

/-- Where no calls are made none are mirrored. -/
theorem mirrors_silent {reflects : α → β → Prop} {run : Render α} {image : Render β}
    {quiet : Render.Quiet run} {quietImage : Render.Quiet image}
    (mirrors : Render.Mirrors sight reflects run image) :
    Mirrors sight reflects (silent run quiet) (silent image quietImage) :=
  ⟨mirrors, fun _ _ _ => rfl⟩

/-- Doing nothing is mirrored. -/
theorem mirrors_pure {reflects : α → β → Prop} {result : α} {image : β}
    (same : reflects result image) : Mirrors sight reflects (pure result) (pure image) :=
  mirrors_silent (Render.mirrors_pure same)

/-- Failing is mirrored. -/
theorem mirrors_fail {reflects : α → β → Prop} (failure : Failure) :
    Mirrors sight reflects (fail failure) (fail failure) :=
  mirrors_silent (Render.mirrors_throw failure)

/-- Looking at the session is mirrored. -/
theorem mirrors_look : Mirrors sight (Session.Mirrors sight) look look :=
  mirrors_silent Render.mirrors_get

/-- Parsing a template is mirrored. -/
theorem mirrors_parse (delimiters : Delimiters) (text : Text) :
    Mirrors sight Eq (parse delimiters text) (parse delimiters text) :=
  mirrors_silent (Render.mirrors_parse delimiters text)

/-- Displaying a value is mirrored. -/
theorem mirrors_displayed (value : Value) :
    Mirrors sight Eq (displayed value) (displayed (value.face sight)) :=
  mirrors_silent (Render.mirrors_displayed value)

/-- One computation after the other is mirrored if both are. -/
theorem Mirrors.bind {reflects : α → β → Prop} {reflectsNext : γ → δ → Prop}
    {first : Recorded α} {image : Recorded β} {next : α → Recorded γ}
    {imageNext : β → Recorded δ} (begins : Mirrors sight reflects first image)
    (continues : ∀ result other, reflects result other →
      Mirrors sight reflectsNext (next result) (imageNext other)) :
    Mirrors sight reflectsNext (first >>= next) (image >>= imageNext) where
  run := begins.run.bind fun result other same => (continues result other same).run
  calls session other mirrored := by
    obtain ⟨outcome, mirroredAfter, -, -⟩ := begins.run session other mirrored
    rw [calls_bind, calls_bind, begins.calls session other mirrored, List.map_append]
    refine congrArg _ ?_
    cases ran : first.run session with
    | mk result between =>
      cases ranImage : image.run other with
      | mk imageResult imageBetween =>
        rw [ran, ranImage] at outcome mirroredAfter
        cases outcome with
        | ok same => exact (continues _ _ same).calls between imageBetween mirroredAfter
        | error failure => rfl

/-- A computation with one more frame is mirrored with the face of the frame. -/
theorem Mirrors.withFrame {reflects : α → β → Prop} {inner : Recorded α} {image : Recorded β}
    (mirrors : Mirrors sight reflects inner image) (frame : Value) :
    Mirrors sight reflects (withFrame frame inner) (withFrame (frame.face sight) image) where
  run := mirrors.run.withFrame frame
  calls _ _ mirrored := mirrors.calls _ _
    ⟨mirrored.store, mirrored.frames.cons frame, mirrored.files, mirrored.log⟩

/-- A computation in frames of its own is mirrored in a mirror image of these. -/
theorem Mirrors.withFrames {reflects : α → β → Prop} {inner : Recorded α} {image : Recorded β}
    (mirrors : Mirrors sight reflects inner image) {frames others : List Value}
    (mirroredFrames : Context.Mirrors sight frames others) :
    Mirrors sight reflects (withFrames frames inner) (withFrames others image) where
  run := mirrors.run.withFrames mirroredFrames
  calls _ _ mirrored := mirrors.calls _ _
    ⟨mirrored.store, mirroredFrames, mirrored.files, mirrored.log⟩

/-- A computation whose failure is passed over is mirrored. -/
theorem Mirrors.attempt {inner image : Recorded Text} (mirrors : Mirrors sight Eq inner image) :
    Mirrors sight Eq (attempt inner) (attempt image) :=
  ⟨mirrors.run.attempt, mirrors.calls⟩

/-- Texts that are joined are mirrored if each of them is. -/
theorem mirrors_joinEach {render image : α → Recorded Text} {face : α → α}
    (mirrors : ∀ item, Mirrors sight Eq (render item) (image (face item))) (items : List α) :
    Mirrors sight Eq (joinEach render items) (joinEach image (items.map face)) := by
  induction items with
  | nil => exact mirrors_pure rfl
  | cons item items inductionHypothesis =>
    refine (mirrors item).bind fun first _ sameFirst => ?_
    refine inductionHypothesis.bind fun others _ sameOthers => ?_
    exact mirrors_pure (sameFirst ▸ sameOthers ▸ rfl)

/-! ## Lambdas -/

/-- Two ways to have a text rendered that do the same. -/
def Callbacks (sight : Sight) (callback image : Callback) : Prop :=
  ∀ text, Mirrors sight Eq (callback text) (image text)

/-- Where nothing is rendered, that is mirrored. -/
theorem callbacks_none : Callbacks sight Callback.none Callback.none :=
  fun _ => mirrors_fail _

section Call

variable {callback image : Callback} (callbacks : Callbacks sight callback image)

include callbacks

/-- What comes of a behaviour is mirrored. -/
theorem mirrors_ofBehaviour (address : Nat) (behaviour : Behaviour) :
    Mirrors sight (Shows sight) (ofBehaviour address callback behaviour)
      (ofBehaviour address image (behaviour.face sight)) := by
  induction behaviour with
  | returns value => exact mirrors_pure rfl
  | raises message => exact mirrors_fail _
  | counts next inductionHypothesis =>
    refine mirrors_look.bind fun session other mirrored => ?_
    rw [mirrored.store, Store.calls_face]
    exact inductionHypothesis _
  | renders text next inductionHypothesis =>
    refine (callbacks text).bind ?_
    rintro content - rfl
    exact inductionHypothesis content
  | tries text next inductionHypothesis =>
    refine (callbacks text).attempt.bind ?_
    rintro outcome - rfl
    exact inductionHypothesis outcome
  | reads place name next inductionHypothesis =>
    refine mirrors_look.bind fun session other mirrored => ?_
    rw [mirrored.shownUnder]
    exact inductionHypothesis _
  | writes place name value next inductionHypothesis =>
    exact (mirrors_silent (Render.mirrors_write place name value)).bind fun _ _ _ =>
      inductionHypothesis

/-- A call of a lambda is mirrored. -/
theorem mirrors_callLambda (address given : Nat) (raw : Text) :
    Mirrors sight (Shows sight) (callLambda address given raw callback)
      (callLambda address given raw image) := by
  have counted : Mirrors sight Eq (counting address given raw) (counting address given raw) := by
    refine ⟨Render.mirrors_modify (fun session other mirrored => ⟨?_, mirrored.frames,
      mirrored.files, mirrored.log⟩) fun _ => rfl, fun _ _ _ => rfl⟩
    rw [mirrored.store, Store.face_countCall]
  unfold callLambda
  refine counted.bind fun _ _ _ => mirrors_look.bind fun session other mirrored => ?_
  rw [mirrored.store, Store.lambdas_face]
  cases session.store.lambdas[address]? with
  | none => exact mirrors_fail _
  | some lambda => exact mirrors_ofBehaviour callbacks address (lambda.behaviour raw)

/-- A call of a value is mirrored. -/
theorem mirrors_call (value : Value) (given : Nat) (raw : Text) :
    Mirrors sight (Shows sight) (call value given raw callback)
      (call (value.face sight) given raw image) := by
  cases value with
  | lambda address => exact mirrors_callLambda callbacks address given raw
  | builtIn function =>
    exact ⟨Render.mirrors_callBuiltIn given raw function, fun _ _ _ => rfl⟩
  | object members shown truth role =>
    have mirrors := @Render.mirrors_callObject sight members shown truth role given
    cases role <;> exact ⟨mirrors, fun _ _ _ => rfl⟩
  | _ => exact mirrors_fail _

end Call

/-! ## Views -/

section View

variable {view : Value}

/-- A call of a method of a view is mirrored. -/
theorem mirrors_callMethod {name : String} (isPublic : isPrivate (.of name) = false)
    {own image : ViewMethod → Recorded Value}
    (mirrors : ∀ method, Mirrors sight (Shows sight) (own method) (image method)) :
    Mirrors sight (Shows sight) (callMethod view name own)
      (callMethod (view.face sight) name image) := by
  refine mirrors_look.bind fun session other mirrored => ?_
  rw [mirrored.member? view (Value.shows_of_public sight view isPublic)]
  cases view.member? session.store (.of name) with
  | none => exact mirrors_fail _
  | some member =>
    cases member with
    | stored value => exact mirrors_call callbacks_none value 0 []
    | computed method =>
      cases method with
      | returns value => exact mirrors_pure rfl
      | raises message => exact mirrors_fail _
      | own other =>
        obtain ⟨same, mirrors⟩ | ⟨answer, same, mirrors⟩ := @Render.own_cases sight view other
        · simp only [Option.map_some, Member.faceIn, same]
          exact ⟨mirrors, fun _ _ _ => rfl⟩
        · simp only [Option.map_some, Member.faceIn, same]
          exact ⟨mirrors, fun _ _ _ => rfl⟩
      | ofView method => exact mirrors method
      | _ => exact mirrors_fail _

/-- The text of a view's template is mirrored. -/
theorem mirrors_viewTemplate :
    Mirrors sight Eq (viewTemplate view) (viewTemplate (view.face sight)) := by
  unfold viewTemplate
  refine (mirrors_silent (Render.mirrors_storedText (by decide))).bind ?_
  rintro directory - rfl
  refine Mirrors.bind (mirrors_callMethod (by decide) fun method => ?_) ?_
  · cases method with
    | fileName className => exact mirrors_silent (Render.mirrors_fileName className)
    | _ => exact mirrors_fail _
  · rintro name - rfl
    cases name with
    | text content => exact mirrors_silent (Render.mirrors_fileText _)
    | _ => exact mirrors_fail _

end View

/-- Finding the template of a view is mirrored. -/
theorem mirrors_templateOrOwn (self template : Value) :
    Mirrors sight (Shows sight) (templateOrOwn self template)
      (templateOrOwn (self.face sight) (template.face sight)) := by
  cases template with
  | null =>
    refine mirrors_callMethod (by decide) fun method => ?_
    cases method with
    | template =>
      refine mirrors_viewTemplate.bind ?_
      rintro text - rfl
      exact mirrors_pure rfl
    | _ => exact mirrors_fail _
  | _ => exact mirrors_pure rfl

/-! ## Nodes -/

section Deeper

variable {deeper image : Deeper}
  (runs : ∀ partials nodes,
    Mirrors sight Eq (deeper partials nodes) (image (partials.face sight) nodes))

include runs

/-- Rendering a text is mirrored. -/
theorem mirrors_expand (partials : Partials) (delimiters : Delimiters) :
    Callbacks sight (expand deeper partials delimiters)
      (expand image (partials.face sight) delimiters) := by
  intro text
  refine (mirrors_parse delimiters text).bind ?_
  rintro nodes - rfl
  exact runs partials nodes

/-- Rendering a view is mirrored. -/
theorem mirrors_view (self template data partials : Value) :
    Mirrors sight Eq (view deeper self template data partials)
      (view image (self.face sight) (template.face sight) (data.face sight)
        (partials.face sight)) := by
  unfold view
  rw [Render.templateAndData_face, Render.dataOrSelf_face]
  refine (mirrors_templateOrOwn self _).bind ?_
  rintro chosen - rfl
  refine (mirrors_silent (Render.mirrors_partialsOrOwn self partials)).bind ?_
  rintro source - rfl
  refine (mirrors_silent (Render.mirrors_templateText chosen)).bind ?_
  rintro text - rfl
  exact (mirrors_expand runs source .standard text).withFrames (Context.Mirrors.nil.cons _)

/-- Computing what a method computes is mirrored. -/
theorem mirrors_compute (self : Value) (method : Method) :
    Mirrors sight (Shows sight) (compute deeper self method)
      (compute image (self.face sight) (method.faceIn sight self)) := by
  cases method with
  | returns value => exact mirrors_pure rfl
  | raises message => exact mirrors_fail _
  | own name =>
    obtain ⟨same, mirrors⟩ | ⟨answer, same, mirrors⟩ := @Render.own_cases sight self name
    · rw [same]
      exact ⟨mirrors, fun _ _ _ => rfl⟩
    · rw [same]
      exact ⟨mirrors, fun _ _ _ => rfl⟩
  | ofView method =>
    cases method with
    | template =>
      refine mirrors_viewTemplate.bind ?_
      rintro text - rfl
      exact mirrors_pure rfl
    | fileName className => exact ⟨Render.mirrors_fileName className, fun _ _ _ => rfl⟩
    | render =>
      refine (mirrors_view runs self .null .null .null).bind ?_
      rintro text - rfl
      exact mirrors_pure rfl
    | partialText => exact mirrors_fail _
  | clearsCache =>
    exact (mirrors_silent (Render.mirrors_cache Cache.clear)).bind fun _ _ _ => mirrors_pure rfl
  | needsArguments => exact mirrors_fail _

/-- Looking a name up is mirrored. -/
theorem mirrors_lookup (name : Text) {frames others : List Value}
    (mirroredFrames : Context.Mirrors sight frames others) :
    Mirrors sight (ShowsFound sight) (lookup deeper name frames) (lookup image name others) := by
  unfold lookup
  refine mirrors_look.bind fun session other mirrored => ?_
  have sameFound := Render.find?_mirrors mirrored mirroredFrames name
  cases found : Context.find? session.store name frames with
  | none =>
    rw [found, Option.map_none, Option.map_none, Option.map_eq_none_iff] at sameFound
    rw [sameFound]
    exact mirrors_pure ⟨rfl, nofun⟩
  | some place =>
    obtain ⟨distance, frame, member⟩ := place
    rw [found, Option.map_some, Option.map_some, Option.map_eq_some_iff] at sameFound
    obtain ⟨⟨otherDistance, otherFrame, otherMember⟩, foundOther, sameMember⟩ := sameFound
    obtain ⟨rfl, rfl⟩ := Prod.mk.inj sameMember
    rw [foundOther]
    have mirrorsMember : Mirrors sight (Shows sight) (memberValue deeper frame member)
        (memberValue image (frame.face sight) (member.faceIn sight frame)) := by
      cases member with
      | stored value => exact mirrors_pure rfl
      | computed method => exact mirrors_compute runs frame method
    exact mirrorsMember.bind fun value other same => mirrors_pure ⟨same, fun _ => rfl⟩

/-- Evaluating a lambda is mirrored. -/
theorem mirrors_evaluation (partials : Partials) (function : Value) :
    Mirrors sight Eq (evaluation deeper partials function)
      (evaluation image (partials.face sight) (function.face sight)) := by
  have expands := mirrors_expand runs partials .standard
  unfold evaluation
  refine (mirrors_call expands function 1 []).bind ?_
  rintro answer - rfl
  refine (mirrors_displayed answer).bind ?_
  rintro text - rfl
  exact expands text

/-- Settling a lambda is mirrored. -/
theorem mirrors_settle (partials : Partials) (frame : Option Value) (name : Text)
    (function : Value) :
    Mirrors sight Eq (settle deeper partials frame name function)
      (settle image (partials.face sight) (frame.map (Value.face sight)) name
        (function.face sight)) := by
  unfold settle
  refine (mirrors_evaluation runs partials function).bind ?_
  rintro text - rfl
  refine (mirrors_silent (Render.mirrors_remember frame name text)).bind fun _ _ _ => ?_
  exact mirrors_pure rfl

/-- Rendering a named value is mirrored. -/
theorem mirrors_interpolation (partials : Partials) (name : Text) (escaped : Bool) :
    Mirrors sight Eq (interpolation deeper partials name escaped)
      (interpolation image (partials.face sight) name escaped) := by
  unfold interpolation
  refine mirrors_look.bind fun session other mirrored => ?_
  refine (mirrors_lookup runs name mirrored.frames).bind ?_
  rintro ⟨frame, value⟩ ⟨otherFrame, -⟩ ⟨rfl, sameFrame⟩
  dsimp only
  rw [Value.kind_face]
  split
  · rename_i isLambda
    cases sameFrame isLambda
    refine (mirrors_settle runs partials frame name value).bind ?_
    rintro text - rfl
    exact mirrors_pure rfl
  · refine (mirrors_displayed value).bind ?_
    rintro text - rfl
    exact mirrors_pure rfl

/-- Rendering the body of a block is mirrored. -/
theorem mirrors_body (partials : Partials) (source : Text) (delimiters : Delimiters)
    (nodes : Option (List Node)) :
    Mirrors sight Eq (body deeper partials source delimiters nodes)
      (body image (partials.face sight) source delimiters nodes) := by
  cases nodes with
  | some nodes => exact runs partials nodes
  | none => exact mirrors_expand runs partials delimiters source

/-- Rendering a block is mirrored. -/
theorem mirrors_block (partials : Partials) (name : Text) (inverted : Bool) (source : Text)
    (delimiters : Delimiters) (nodes : Option (List Node)) :
    Mirrors sight Eq (block deeper partials name inverted source delimiters nodes)
      (block image (partials.face sight) name inverted source delimiters nodes) := by
  have mirrorsBody := mirrors_body runs partials source delimiters nodes
  unfold block
  refine mirrors_look.bind fun session other mirrored => ?_
  refine (mirrors_lookup runs name mirrored.frames).bind ?_
  rintro ⟨frame, value⟩ ⟨otherFrame, -⟩ ⟨rfl, -⟩
  refine mirrors_look.bind fun session other mirrored => ?_
  dsimp only
  rw [mirrored.truth, Value.items?_face, Value.kind_face]
  split
  · split
    · exact mirrors_pure rfl
    · exact mirrorsBody
  · cases value.items? with
    | some items => exact mirrors_joinEach (fun item => mirrorsBody.withFrame item) items
    | none =>
      dsimp only [Option.map_none]
      split
      · have expands := mirrors_expand runs partials delimiters
        refine (mirrors_call expands value 2 source).bind ?_
        rintro answer - rfl
        refine (mirrors_displayed answer).bind ?_
        rintro text - rfl
        refine (mirrors_parse delimiters text).bind ?_
        rintro replaced - rfl
        exact (runs partials replaced).withFrame value
      · split
        · exact mirrorsBody.withFrame value
        · exact mirrors_pure rfl

/-- Finding the text of an inclusion is mirrored. -/
theorem mirrors_partialText (name : Text) (partials : Partials) :
    Mirrors sight Eq (partialText deeper name partials)
      (partialText image name (partials.face sight)) := by
  cases partials with
  | absent => exact mirrors_pure rfl
  | called function =>
    refine (mirrors_call callbacks_none function 1 name).bind ?_
    rintro answer - rfl
    exact mirrors_displayed answer
  | held holder =>
    refine (mirrors_lookup runs name (Context.Mirrors.nil.cons holder)).bind ?_
    rintro ⟨frame, value⟩ ⟨otherFrame, -⟩ ⟨rfl, -⟩
    exact mirrors_displayed value
  | filesOf view => exact ⟨Render.mirrors_viewPartialText name, fun _ _ _ => rfl⟩

/-- Rendering an inclusion is mirrored. -/
theorem mirrors_inclusion (partials : Partials) (name indent : Text) :
    Mirrors sight Eq (inclusion deeper partials name indent)
      (inclusion image (partials.face sight) name indent) := by
  unfold inclusion
  refine (mirrors_partialText runs name partials).bind ?_
  rintro text - rfl
  refine (mirrors_silent (Render.mirrors_note _)).bind fun _ _ _ => ?_
  exact mirrors_expand runs partials .standard _

/-- Rendering a node is mirrored. -/
theorem mirrors_node (partials : Partials) (node : Node) :
    Mirrors sight Eq (Recorded.node deeper partials node)
      (Recorded.node image (partials.face sight) node) := by
  cases node with
  | literal text => exact mirrors_pure rfl
  | interpolation name escaped => exact mirrors_interpolation runs partials name escaped
  | block name inverted source delimiters nodes =>
    exact mirrors_block runs partials name inverted source delimiters nodes
  | inclusion name indent => exact mirrors_inclusion runs partials name indent
  | foreign value =>
    refine mirrors_look.bind fun session other mirrored => ?_
    rw [mirrored.describe]
    exact mirrors_fail _

end Deeper

/-- Rendering is mirrored, however deep it goes. -/
theorem mirrors_generate (depth : Nat) (partials : Partials) (nodes : List Node) :
    Mirrors sight Eq (generate depth partials nodes)
      (generate depth (partials.face sight) nodes) := by
  induction depth generalizing partials nodes with
  | zero => exact mirrors_fail _
  | succ depth inductionHypothesis =>
    have mirrors : Mirrors sight Eq (generate (depth + 1) partials nodes)
        (generate (depth + 1) (partials.face sight) (nodes.map id)) :=
      mirrors_joinEach (mirrors_node inductionHypothesis partials) nodes
    rwa [List.map_id] at mirrors

end Recorded

end Stencil
