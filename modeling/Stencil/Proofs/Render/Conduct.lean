import Stencil.Proofs.Computation
import Stencil.Proofs.Render.Compositional
import Stencil.Proofs.Render.Course
import Stencil.Proofs.Render.Lookup

/-!
# Rendering takes its course

Every computation that rendering consists of takes a course in a region, whether it fails or not
(`Render.OnCourse`), if it begins in the region. A computation that puts a value on the frames has
come by the value before: looking a name up finds what no step out of the region leads to
(`Render.isInside_of_lookup`).

So rendering takes a course, however deep it goes (`Render.onCourse_generate`), in every region that
has the frames and the partials as far as these are called or asked as a view (`Partials.sources`).
The same is true of a template that is rendered with data and of a view that is asked to render.
-/

namespace Stencil

/-- Evaluates a lambda that a frame holds under a name, and writes what comes of it over the lambda
if the frame can be written to. -/
def Render.settle (deeper : Render.Deeper) (partials : Partials) (frame : Option Value)
    (name : Text) (function : Value) : Render Text := do
  let text ← evaluation deeper partials function
  remember frame name text
  return text

namespace Render

/-- The template of a view: the one that is given, or else its own. -/
def templateOrOwn (self : Value) : Value → Render Value
  | .null => View.callMethod self "template" fun
    | .template => return .text (← View.template self)
    | _ => throw .unfit
  | given => pure given

/-- The data of a view: what is given, or else itself. -/
def dataOrSelf (self : Value) : Value → Value
  | .null => self
  | given => given

/-- The partials of a view: those that are given, or else its own. -/
def partialsOrOwn (self : Value) : Value → Render Partials
  | .null => partialsOf self
  | given => pure (.ofValue given)

/-- Rendering a view, with what is given or else its own. -/
theorem view_eq (deeper : Deeper) (self template data partials : Value) :
    view deeper self template data partials = (do
      let chosen ← templateOrOwn self (templateAndData template data).1
      let source ← partialsOrOwn self partials
      let text ← templateText chosen
      withFrames [dataOrSelf self (templateAndData template data).2]
        (expand deeper source .standard text)) := by
  unfold view
  obtain ⟨template, data⟩ := templateAndData template data
  cases template <;> cases partials <;> rfl

variable {α β : Type} {region : Region}

/-- Every run of a computation that begins in a region takes a course there. -/
def OnCourse (region : Region) (computation : Render α) : Prop :=
  ∀ session : Session, session.IsInside region →
    ∃ deeds, session.Course region deeds (computation session).2

/-! ## Computations in general -/

/-- Doing nothing takes a course. -/
theorem onCourse_pure (value : α) : OnCourse region (pure value : Render α) :=
  fun _ _ => ⟨[], .stay⟩

/-- Failing takes a course. -/
theorem onCourse_throw (failure : Failure) : OnCourse region (throw failure : Render α) :=
  fun _ _ => ⟨[], .stay⟩

/-- Looking at the session takes a course. -/
theorem onCourse_get : OnCourse region (get : Render Session) :=
  fun _ _ => ⟨[], .stay⟩

/-- A course goes on where the first of two computations succeeds. -/
theorem course_bind {first : Render α} {next : α → Render β} {session : Session}
    (isInside : session.IsInside region)
    (begins : ∃ deeds, session.Course region deeds (first session).2)
    (continues : ∀ value between deeds, first session = (.ok value, between) →
      session.Course region deeds between → between.IsInside region →
        ∃ more, between.Course region more (next value between).2) :
    ∃ deeds, session.Course region deeds ((first >>= next) session).2 := by
  obtain ⟨deeds, begun⟩ := begins
  cases outcome : first session with
  | mk result between =>
    rw [outcome] at begun
    cases result with
    | ok value =>
      obtain ⟨more, continued⟩ :=
        continues value between deeds outcome begun (begun.isInside isInside)
      rw [bind_of_ok outcome]
      exact ⟨deeds ++ more, begun.trans continued⟩
    | error failure =>
      rw [bind_of_error outcome]
      exact ⟨deeds, begun⟩

/-- One computation after the other takes one course after the other. -/
theorem OnCourse.bind {first : Render α} {next : α → Render β} (begins : OnCourse region first)
    (continues : ∀ value, OnCourse region (next value)) : OnCourse region (first >>= next) :=
  fun session isInside => course_bind isInside (begins session isInside)
    fun value between _ _ _ => continues value between

/-- A computation stays on course if its failure is passed over. -/
theorem OnCourse.attempt {computation : Render Text} (runs : OnCourse region computation) :
    OnCourse region (attempt computation) :=
  fun session isInside => runs session isInside

/-- A computation stays on course with one more frame from the region. -/
theorem OnCourse.withFrame {inner : Render α} (runs : OnCourse region inner) {frame : Value}
    (frameInside : region frame) : OnCourse region (withFrame frame inner) := by
  intro session isInside
  obtain ⟨deeds, course⟩ := runs { session with frames := frame :: session.frames }
    ⟨isInside.encloses, List.forall_mem_cons.mpr ⟨frameInside, isInside.frames⟩⟩
  exact ⟨deeds, course.within frameInside⟩

/-- A computation stays on course in frames of its own from the region. -/
theorem OnCourse.withFrames {inner : Render α} (runs : OnCourse region inner)
    {frames : List Value} (areInside : ∀ frame ∈ frames, region frame) :
    OnCourse region (withFrames frames inner) := by
  intro session isInside
  obtain ⟨deeds, course⟩ := runs { session with frames := frames } ⟨isInside.encloses, areInside⟩
  exact ⟨deeds, course.apart areInside⟩

/-- Texts that are joined are on course if each of them is. -/
theorem onCourse_joinEach {render : α → Render Text} {items : List α}
    (runs : ∀ item ∈ items, OnCourse region (render item)) :
    OnCourse region (joinEach render items) := by
  fun_induction joinEach render items with
  | case1 => exact onCourse_pure []
  | case2 item => exact runs item List.mem_cons_self
  | case3 item items notAlone inductionHypothesis =>
    have others := inductionHypothesis fun other isItem =>
      runs other (List.mem_cons_of_mem _ isItem)
    exact (runs item List.mem_cons_self).bind fun _ => others.bind fun _ => onCourse_pure _

/-- Adding a log line takes a course. -/
theorem onCourse_note (event : LogEvent) : OnCourse region (note event) :=
  fun _ _ => ⟨[], .note event⟩

/-- Taking a course is a property of what computations are put together from. -/
theorem onCourse (region : Region) : Compositional fun _ => OnCourse region where
  pure := onCourse_pure
  throw := onCourse_throw
  get := onCourse_get
  note := onCourse_note
  miss := fun _ _ => ⟨[], .miss⟩
  bind := OnCourse.bind

/-! ## Calls -/

/-- Parsing through the cache takes a course. -/
theorem onCourse_parse (delimiters : Delimiters) (template : Text) :
    OnCourse region (parse delimiters template) :=
  fun _ _ => ⟨[], .parse delimiters template⟩

/-- Calling a function of a set takes a course. -/
theorem onCourse_callOfSet (function : SetFunction) (address given : Nat) (raw : Text) :
    OnCourse region (callOfSet function address given raw) :=
  fun _ _ => ⟨[.calledSet address], .callSet function address given raw⟩

/-- What a lambda of the region does is on course if what is rendered for it is. What it writes is
its own, whatever it has found before. -/
theorem course_run {address : Nat} {callback : Callback}
    (renders : ∀ text, OnCourse region (callback text)) (lambdaInside : region (.lambda address))
    (behaviour : Behaviour) {session : Session} (isInside : session.IsInside region)
    (owns : ∀ place value, behaviour.Writes place value →
      session.store.Writes address place value) :
    ∃ deeds, session.Course region deeds (behaviour.run address callback session).2 := by
  induction behaviour generalizing session with
  | returns value => exact onCourse_pure value session isInside
  | raises message => exact onCourse_throw _ session isInside
  | counts next inductionHypothesis =>
    exact course_bind isInside (onCourse_get session isInside) fun _ _ _ _ course inside =>
      inductionHypothesis _ inside fun place value writes =>
        (owns place value (.counts writes)).congr course.confined.behaviours.symm
  | renders text next inductionHypothesis =>
    exact course_bind isInside (renders text session isInside) fun _ _ _ _ course inside =>
      inductionHypothesis _ inside fun place value writes =>
        (owns place value (.renders writes)).congr course.confined.behaviours.symm
  | tries text next inductionHypothesis =>
    exact course_bind isInside ((renders text).attempt session isInside)
      fun _ _ _ _ course inside => inductionHypothesis _ inside fun place value writes =>
        (owns place value (.tries writes)).congr course.confined.behaviours.symm
  | reads place name next inductionHypothesis =>
    exact course_bind isInside (onCourse_get session isInside) fun _ _ _ _ course inside =>
      inductionHypothesis _ inside fun place value writes =>
        (owns place value (.reads writes)).congr course.confined.behaviours.symm
  | writes place name value next inductionHypothesis =>
    exact course_bind isInside ⟨_, .write name lambdaInside (owns place value .now)⟩
      fun _ _ _ _ course inside => inductionHypothesis inside fun other written writes =>
        (owns other written (.later writes)).congr course.confined.behaviours.symm

/-- Calling a lambda of the region is on course if what is rendered for it is. -/
theorem onCourse_callLambda {address : Nat} (raw : Text) {callback : Callback}
    (renders : ∀ text, OnCourse region (callback text)) (lambdaInside : region (.lambda address)) :
    OnCourse region (callLambda address raw callback) := by
  intro session isInside
  unfold callLambda
  refine course_bind isInside ⟨[], .count address⟩ fun _ counted _ _ _ countedInside => ?_
  rw [bind_of_get]
  cases isThere : counted.store.lambdas[address]? with
  | none => exact onCourse_throw _ counted countedInside
  | some lambda =>
    refine course_run renders lambdaInside _ countedInside fun place value writes =>
      ⟨lambda.behaviour, raw, ?_, writes⟩
    simp [Store.behaviours, isThere]

/-- A call of a value of the region is on course if what is rendered for it is. -/
theorem onCourse_call {value : Value} (given : Nat) (raw : Text) {callback : Callback}
    (renders : ∀ text, OnCourse region (callback text)) (valueInside : region value) :
    OnCourse region (call value given raw callback) := by
  unfold call
  split
  · exact onCourse_callLambda raw renders valueInside
  · unfold callBuiltIn
    split
    · exact onCourse_throw _
    · exact onCourse_callOfSet _ _ given raw
  · exact (onCourse region).callObject _ _ _ given
  · exact onCourse_throw _

/-- A call for which nothing is rendered takes a course. -/
theorem onCourse_callAlone {value : Value} (given : Nat) (raw : Text)
    (valueInside : region value) : OnCourse region (call value given raw Callback.none) :=
  onCourse_call given raw (fun _ => onCourse_throw _) valueInside

/-! ## Views -/

/-- Calling a method of a view of the region is on course if calling its own one is. -/
theorem onCourse_callMethod {view : Value} (name : String) {own : ViewMethod → Render Value}
    (viewInside : region view) (owns : ∀ method, OnCourse region (own method)) :
    OnCourse region (View.callMethod view name own) := by
  intro session isInside
  unfold View.callMethod
  rw [bind_of_get]
  cases offers : view.member? session.store (.of name) with
  | none => exact onCourse_throw _ session isInside
  | some member =>
    cases member with
    | stored value =>
      have valueInside : region value := isInside.encloses.step _ _ viewInside (.stored offers)
      exact onCourse_callAlone 0 [] valueInside session isInside
    | computed method =>
      cases method with
      | returns value => exact onCourse_pure value session isInside
      | raises message => exact onCourse_throw _ session isInside
      | own other => exact (onCourse region).ownMember view other session isInside
      | ofView method => exact owns method session isInside
      | _ => exact onCourse_throw _ session isInside

/-- Finding the template of a view of the region takes a course. -/
theorem onCourse_viewTemplate {view : Value} (viewInside : region view) :
    OnCourse region (View.template view) := by
  unfold View.template
  refine ((onCourse region).storedText view _).bind fun directory => ?_
  refine OnCourse.bind (onCourse_callMethod _ viewInside fun method => ?_) fun name => ?_
  · split
    · exact (onCourse region).fileName view _
    · exact onCourse_throw _
  · split
    · exact (onCourse region).fileText _
    · exact onCourse_throw _

/-- The partials of a view in the region, or those given in the region, are in the region. -/
theorem isInside_of_partialsOrOwn {self partials : Value} {source : Partials}
    {session after : Session} (encloses : session.store.Encloses region)
    (selfInside : region self) (partialsInside : region partials)
    (ran : partialsOrOwn self partials session = (.ok source, after)) :
    source.IsInside region := by
  cases partials with
  | null =>
    obtain rfl | rfl | ⟨value, stores, rfl⟩ := eq_of_partialsOf ran
    · exact List.forall_mem_singleton.mpr (encloses.leaf _ (.builtIn .refusing))
    · exact List.forall_mem_nil _
    · exact Partials.isInside_ofValue (encloses.step _ _ selfInside (.stored stores))
  | _ =>
    cases ran
    exact Partials.isInside_ofValue partialsInside

/-! ## Nodes -/

section Deeper

variable {deeper : Deeper}
  (runs : ∀ partials nodes, partials.IsInside region → OnCourse region (deeper partials nodes))

/-- Finding the template of a view of the region takes a course. -/
theorem onCourse_templateOrOwn {self : Value} (selfInside : region self) (template : Value) :
    OnCourse region (templateOrOwn self template) := by
  cases template with
  | null =>
    refine onCourse_callMethod _ selfInside fun method => ?_
    cases method with
    | template => exact (onCourse_viewTemplate selfInside).bind fun _ => onCourse_pure _
    | _ => exact onCourse_throw _
  | _ => exact onCourse_pure _

/-- Finding the partials of a view takes a course. -/
theorem onCourse_partialsOrOwn (self partials : Value) :
    OnCourse region (partialsOrOwn self partials) := by
  cases partials with
  | null => exact (onCourse region).partialsOf self
  | _ => exact onCourse_pure _

include runs

/-- Rendering a text takes a course. -/
theorem onCourse_expand {partials : Partials} (partialsInside : partials.IsInside region)
    (delimiters : Delimiters) (text : Text) :
    OnCourse region (expand deeper partials delimiters text) :=
  (onCourse_parse delimiters text).bind fun nodes => runs partials nodes partialsInside

/-- Rendering a view of the region takes a course, if what it is given is in the region. -/
theorem onCourse_view {self partials : Value} (template data : Value) (selfInside : region self)
    (dataInside : region (dataOrSelf self (templateAndData template data).2))
    (partialsInside : region partials) :
    OnCourse region (view deeper self template data partials) := by
  rw [view_eq]
  refine (onCourse_templateOrOwn selfInside _).bind fun chosen session isInside => ?_
  refine course_bind isInside (onCourse_partialsOrOwn self partials session isInside) ?_
  intro source between _ ran _ betweenInside
  have sourceInside : source.IsInside region :=
    isInside_of_partialsOrOwn isInside.encloses selfInside partialsInside ran
  have rendersInside := (onCourse_expand runs sourceInside .standard)
  have areInside : ∀ frame ∈ [dataOrSelf self (templateAndData template data).2], region frame :=
    List.forall_mem_singleton.mpr dataInside
  exact ((onCourse region).templateText chosen).bind
    (fun text => (rendersInside text).withFrames areInside) between betweenInside

/-- Computing what a method computes takes a course, if its object is in the region where it is a
view. -/
theorem onCourse_compute {self : Value} {method : Method}
    (selfInside : ∀ own, method = .ofView own → region self) :
    OnCourse region (compute deeper self method) := by
  cases method with
  | returns value => exact onCourse_pure value
  | raises message => exact onCourse_throw _
  | own name => exact (onCourse region).ownMember self name
  | ofView own =>
    have viewInside : region self := selfInside own rfl
    cases own with
    | template => exact (onCourse_viewTemplate viewInside).bind fun _ => onCourse_pure _
    | fileName className => exact (onCourse region).fileName self className
    | render =>
      intro session isInside
      have nullInside : region .null := isInside.encloses.leaf _ (.scalar rfl)
      have rendered := onCourse_view runs .null .null viewInside viewInside nullInside
      exact (rendered.bind fun _ => onCourse_pure _) session isInside
    | partialText => exact onCourse_throw _
  | clearsCache => exact OnCourse.bind (fun _ _ => ⟨[], .clear⟩) fun _ => onCourse_pure _
  | needsArguments => exact onCourse_throw _

/-- Looking a name up takes a course, although it may run a method, if those of the frames that are
views are in the region. -/
theorem onCourse_lookup (name : Text) {frames : List Value}
    (viewsInside : ∀ frame ∈ frames, frame.isView = true → region frame) :
    OnCourse region (lookup deeper name frames) := by
  intro session isInside
  unfold lookup
  rw [bind_of_get]
  cases found : Context.find? session.store name frames with
  | none => exact onCourse_pure _ session isInside
  | some place =>
    obtain ⟨distance, frame, member⟩ := place
    obtain ⟨isFrame, holds⟩ := holding?_of_find? found
    refine OnCourse.bind ?_ (fun _ => onCourse_pure _) session isInside
    cases member with
    | stored value => exact onCourse_pure value
    | computed method =>
      refine onCourse_compute runs fun own isOfView => viewsInside frame isFrame ?_
      exact Value.isView_of_member? (isOfView ▸ member?_of_holding? holds)

section Partials

variable {partials : Partials} (partialsInside : partials.IsInside region)

include partialsInside

/-- Evaluating a lambda of the region takes a course. -/
theorem onCourse_evaluation {function : Value} (functionInside : region function) :
    OnCourse region (evaluation deeper partials function) := by
  have expands := onCourse_expand runs partialsInside .standard
  unfold evaluation
  exact (onCourse_call 1 [] expands functionInside).bind fun answer =>
    ((onCourse region).displayed answer).bind expands

/-- Rendering the body of a block takes a course. -/
theorem onCourse_body (source : Text) (delimiters : Delimiters) (nodes : Option (List Node)) :
    OnCourse region (body deeper partials source delimiters nodes) := by
  unfold body
  split
  · exact runs partials _ partialsInside
  · exact onCourse_expand runs partialsInside delimiters source

/-- Rendering a block takes a course. -/
theorem onCourse_block (name : Text) (inverted : Bool) (source : Text) (delimiters : Delimiters)
    (nodes : Option (List Node)) :
    OnCourse region (block deeper partials name inverted source delimiters nodes) := by
  have rendersBody := onCourse_body runs partialsInside source delimiters nodes
  intro session isInside
  unfold block
  rw [bind_of_get]
  have looks := @onCourse_lookup _ _ runs name session.frames fun frame isFrame _ =>
    isInside.frames frame isFrame
  refine course_bind isInside (looks session isInside) ?_
  rintro ⟨frame, value⟩ between _ found _ betweenInside
  have valueInside : region value := isInside_of_lookup isInside.encloses isInside.frames found
  dsimp only
  rw [bind_of_get]
  split
  · split
    · exact onCourse_pure _ between betweenInside
    · exact rendersBody between betweenInside
  · cases hasItems : value.items? with
    | some items =>
      have rendersItems : ∀ item ∈ items, OnCourse region
          (withFrame item (body deeper partials source delimiters nodes)) := by
        intro item isItem
        refine rendersBody.withFrame ?_
        exact isInside.encloses.step value item valueInside (.item hasItems isItem)
      exact onCourse_joinEach rendersItems between betweenInside
    | none =>
      dsimp only
      split
      · have rendersReplaced (replaced : List Node) :
            OnCourse region (withFrame value (deeper partials replaced)) :=
          (runs partials replaced partialsInside).withFrame valueInside
        have expands := onCourse_expand runs partialsInside delimiters
        refine OnCourse.bind (onCourse_call 2 source expands valueInside) (fun answer => ?_) between
          betweenInside
        exact ((onCourse region).displayed answer).bind fun text =>
          (onCourse_parse delimiters text).bind rendersReplaced
      · split
        · exact rendersBody.withFrame valueInside between betweenInside
        · exact onCourse_pure _ between betweenInside

/-- Finding the text of an inclusion takes a course. -/
theorem onCourse_partialText (name : Text) :
    OnCourse region (partialText deeper name partials) := by
  cases partials with
  | absent => exact onCourse_pure _
  | called function =>
    have functionInside : region function := partialsInside function List.mem_cons_self
    exact (onCourse_callAlone 1 name functionInside).bind fun _ => (onCourse region).displayed _
  | held holder =>
    have viewsInside : ∀ frame ∈ [holder], frame.isView = true → region frame := by
      intro frame isHolder isView
      cases List.mem_singleton.mp isHolder
      exact partialsInside holder (by simp [Partials.sources, isView])
    exact (onCourse_lookup runs name viewsInside).bind fun _ => (onCourse region).displayed _
  | filesOf view => exact (onCourse region).viewPartialText view name

/-- Rendering an inclusion takes a course. -/
theorem onCourse_inclusion (name indent : Text) :
    OnCourse region (inclusion deeper partials name indent) := by
  unfold inclusion
  exact (onCourse_partialText runs partialsInside name).bind fun text =>
    (onCourse_note _).bind fun _ => onCourse_expand runs partialsInside .standard _

end Partials

end Deeper

/-- Rendering a named value settles it if it is a lambda. -/
theorem interpolation_eq (deeper : Deeper) (partials : Partials) (name : Text) (escaped : Bool) :
    interpolation deeper partials name escaped = (do
      let (frame, value) ← lookup deeper name (← get).frames
      let text ← if value.kind = .lambda then settle deeper partials frame name value
        else displayed value
      return if escaped then Text.Entity.escape text else text) := by
  simp only [interpolation, settle, evaluation, bind_assoc]

section Generate

variable {depth : Nat}
  (runs : ∀ partials nodes, partials.IsInside region →
    OnCourse region (generate depth partials nodes))
  {partials : Partials} (partialsInside : partials.IsInside region)

include runs partialsInside

/-- Settling a lambda of the region that a frame holds takes a course. -/
theorem course_settle {frame : Option Value} {name : Text} {function : Value} {session : Session}
    (isInside : session.IsInside region) (functionInside : region function)
    (isLambda : function.kind = .lambda)
    (held : ∀ address, frame = some (.mapping address) → .mapping address ∈ session.frames ∧
      (session.store.entries address).lookup (.text name) = some function) :
    ∃ deeds, session.Course region deeds
      (settle (generate depth) partials frame name function session).2 := by
  obtain ⟨deeds, evaluated⟩ :=
    onCourse_evaluation runs partialsInside functionInside session isInside
  unfold settle
  cases completes : evaluation (generate depth) partials function session with
  | mk result after =>
    rw [completes] at evaluated
    cases result with
    | error failure =>
      rw [bind_of_error completes]
      exact ⟨deeds, evaluated⟩
    | ok text =>
      rw [bind_of_ok completes]
      unfold remember
      split
      · obtain ⟨isFrame, isThere⟩ := held _ rfl
        exact ⟨_, .evaluate isFrame isThere isLambda completes evaluated⟩
      · exact ⟨deeds, evaluated⟩

/-- Rendering a named value takes a course. -/
theorem onCourse_interpolation (name : Text) (escaped : Bool) :
    OnCourse region (interpolation (generate depth) partials name escaped) := by
  intro session isInside
  rw [interpolation_eq, bind_of_get]
  have looks := @onCourse_lookup _ _ runs name session.frames fun frame isFrame _ =>
    isInside.frames frame isFrame
  refine course_bind isInside (looks session isInside) ?_
  rintro ⟨frame, value⟩ after _ found course afterInside
  dsimp only
  split
  · rename_i isLambda
    have valueInside : region value := isInside_of_lookup isInside.encloses isInside.frames found
    refine course_bind afterInside
      (course_settle runs partialsInside afterInside valueInside isLambda ?_)
      fun _ last _ _ _ => onCourse_pure _ last
    rintro address rfl
    rw [course.frames_eq]
    exact held_of_lookup found isLambda
  · exact (((onCourse region).displayed value).bind fun _ => onCourse_pure _) after afterInside

/-- Rendering a node takes a course. -/
theorem onCourse_node (node : Node) :
    OnCourse region (Render.node (generate depth) partials node) := by
  cases node with
  | literal text => exact onCourse_pure text
  | interpolation name escaped => exact onCourse_interpolation runs partialsInside name escaped
  | block name inverted source delimiters nodes =>
    exact onCourse_block runs partialsInside name inverted source delimiters nodes
  | inclusion name indent => exact onCourse_inclusion runs partialsInside name indent
  | foreign value => exact onCourse_get.bind fun session => onCourse_throw _

end Generate

/-- Rendering takes a course in a region with its partials, however deep it goes. -/
theorem onCourse_generate (depth : Nat) (partials : Partials) (nodes : List Node)
    (partialsInside : partials.IsInside region) :
    OnCourse region (generate depth partials nodes) := by
  induction depth generalizing partials nodes with
  | zero => exact onCourse_throw _
  | succ depth inductionHypothesis =>
    exact onCourse_joinEach fun node _ => onCourse_node inductionHypothesis partialsInside node

/-- Rendering a template takes a course in a region with its data and its partials. -/
theorem onCourse_template {partials : Partials} (partialsInside : partials.IsInside region)
    (delimiters : Delimiters) (text : Text) {data : Value} (dataInside : region data) :
    OnCourse region (template partials delimiters text data) := by
  have expands := onCourse_expand (onCourse_generate depthLimit) partialsInside delimiters text
  refine expands.withFrames fun frame isFrame => ?_
  split at isFrame
  · cases isFrame
  · cases List.mem_singleton.mp isFrame
    exact dataInside

/-- What a lambda renders for another one is on course. -/
theorem onCourse_callbackOf {function : Value} (functionInside : region function) (text : Text) :
    OnCourse region (View.callbackOf function text) := by
  unfold View.callbackOf
  refine (onCourse_callAlone 1 text functionInside).bind fun answer => ?_
  split
  · exact onCourse_pure _
  · exact onCourse_throw _

/-- Calling a value with things of all kinds takes a course in a region with all of them. -/
theorem onCourse_callWith {function : Value} {given : List Value}
    (functionInside : region function) (givenInside : ∀ value ∈ given, region value) :
    OnCourse region (View.callWith function given) := by
  unfold View.callWith
  refine onCourse_call _ _ (fun text => ?_) functionInside
  cases isLast : (given.filter fun value => value.kind = .lambda).getLast? with
  | none => exact onCourse_throw _
  | some callback =>
    have isGiven : callback ∈ given := List.mem_of_mem_filter (List.mem_of_getLast? isLast)
    exact onCourse_callbackOf (givenInside callback isGiven) text

/-- Asking a view to render takes a course in the region of all values. -/
theorem onCourse_callRender (self template data partials : Value) :
    OnCourse .all (View.callRender self template data partials) := by
  unfold View.callRender
  refine onCourse_get.bind fun session => ?_
  split
  · exact (onCourse_view (onCourse_generate depthLimit) template data trivial trivial trivial).bind
      fun _ => onCourse_pure _
  · exact onCourse_callWith trivial fun _ _ => trivial
  · exact onCourse_throw _

end Render

end Stencil
