import Stencil.Proofs.Render.Conduct
import Stencil.Proofs.Render.Outcome

/-!
# What a computation has rendered

A computation that rendering consists of has nodes rendered one level deeper, and does not care how
that is done. `Render.Asks` says which nodes it has rendered, in which sessions, one after the
other: these are its queries. Where two ways to render deeper agree on the queries, the computation
does the same with both (`Render.Asks.run_eq`), so there is nothing else that it has rendered.

Every such computation has its queries, in whichever session it is run and whether it fails or not,
if rendering deeper takes a course (`Render.HasQueries`).
-/

namespace Stencil.Render

variable {α β : Type}

/-- Nodes to be rendered in a session. -/
structure Query where
  partials : Partials
  nodes : List Node
  session : Session

/-- A computation that has nodes rendered: given how, it is one. -/
abbrev Asker (α : Type) := Deeper → Render α

/-- The answer to a query. -/
def Query.answer (query : Query) (deeper : Deeper) : Except Failure Text × Session :=
  deeper query.partials query.nodes query.session

/-- What a computation has rendered in a session, in this order. -/
inductive Asks (deeper : Deeper) : {α : Type} → Asker α → Session → List Query → Prop where
  /-- A computation that does not depend on how nodes are rendered has none rendered. -/
  | nothing {α session} {computation : Render α}
      (course : ∃ deeds, session.Course .all deeds (computation session).2) :
      Asks deeper (fun _ => computation) session []
  | nodes {session} (partials : Partials) (nodes : List Node) :
      Asks deeper (fun further => further partials nodes) session [⟨partials, nodes, session⟩]
  /-- After a failure there is nothing more. -/
  | fails {α β session failure after queries} {first : Asker α} {next : α → Asker β}
      (begins : Asks deeper first session queries)
      (ran : first deeper session = (.error failure, after)) :
      Asks deeper (fun further => first further >>= fun value => next value further) session
        queries
  | goesOn {α β session value between queries more} {first : Asker α} {next : α → Asker β}
      (begins : Asks deeper first session queries)
      (ran : first deeper session = (.ok value, between))
      (continues : Asks deeper (next value) between more) :
      Asks deeper (fun further => first further >>= fun value => next value further) session
        (queries ++ more)
  | attempt {session queries} {inner : Asker Text} (asks : Asks deeper inner session queries) :
      Asks deeper (fun further => attempt (inner further)) session queries
  | withFrame {α session queries} {inner : Asker α} (frame : Value)
      (asks : Asks deeper inner { session with frames := frame :: session.frames } queries) :
      Asks deeper (fun further => withFrame frame (inner further)) session queries
  | withFrames {α session queries} {inner : Asker α} (frames : List Value)
      (asks : Asks deeper inner { session with frames := frames } queries) :
      Asks deeper (fun further => withFrames frames (inner further)) session queries

/-- A computation does the same with every way to render nodes that gives the same answers to its
queries. -/
theorem Asks.run_eq {deeper other : Deeper} {computation : Asker α} {session : Session}
    {queries : List Query} (asks : Asks deeper computation session queries)
    (agree : ∀ query ∈ queries, query.answer other = query.answer deeper) :
    computation other session = computation deeper session := by
  induction asks with
  | nothing => rfl
  | nodes partials nodes => exact agree _ List.mem_cons_self
  | fails _ ran sameFirst =>
    have ranOther := (sameFirst agree).trans ran
    dsimp only
    rw [bind_of_error ran, bind_of_error ranOther]
  | goesOn _ ran _ sameFirst sameNext =>
    have ranOther :=
      (sameFirst fun query isAsked => agree query (List.mem_append_left _ isAsked)).trans ran
    dsimp only
    rw [bind_of_ok ran, bind_of_ok ranOther]
    exact sameNext fun query isAsked => agree query (List.mem_append_right _ isAsked)
  | attempt _ same =>
    exact congrArg (fun outcome => (Except.ok outcome.1.toOption, outcome.2)) (same agree)
  | withFrame frame _ same =>
    exact congrArg (fun outcome =>
      (outcome.1, { outcome.2 with frames := outcome.2.frames.tail })) (same agree)
  | @withFrames _ session _ _ frames _ same =>
    exact congrArg (fun outcome => (outcome.1, { outcome.2 with frames := session.frames }))
      (same agree)

/-- A computation takes a course if rendering deeper does. -/
theorem Asks.course {deeper : Deeper} {computation : Asker α} {session : Session}
    {queries : List Query} (asks : Asks deeper computation session queries)
    (runs : ∀ partials nodes, OnCourse .all (deeper partials nodes)) :
    ∃ deeds, session.Course .all deeds (computation deeper session).2 := by
  induction asks with
  | nothing course => exact course
  | @nodes session partials nodes => exact runs partials nodes session session.isInside_all
  | fails _ ran takes =>
    rw [ran] at takes
    dsimp only
    rwa [bind_of_error ran]
  | goesOn _ ran _ takes goesOn =>
    rw [ran] at takes
    obtain ⟨deeds, first⟩ := takes
    obtain ⟨more, next⟩ := goesOn
    dsimp only
    rw [bind_of_ok ran]
    exact ⟨deeds ++ more, first.trans next⟩
  | attempt _ takes => exact takes
  | withFrame frame _ takes => exact takes.imp fun _ course => .within trivial course
  | withFrames frames _ takes => exact takes.imp fun _ course => .apart (fun _ _ => trivial) course

/-- What a lambda may come to write it may still come to write after a computation. -/
theorem Asks.writes {deeper : Deeper} {computation : Asker α} {session between : Session}
    {queries : List Query} {value : α} (asks : Asks deeper computation session queries)
    (runs : ∀ partials nodes, OnCourse .all (deeper partials nodes))
    (ran : computation deeper session = (.ok value, between)) {address place : Nat}
    {written : Value} (writes : session.store.Writes address place written) :
    between.store.Writes address place written := by
  obtain ⟨deeds, course⟩ := asks.course runs
  rw [ran] at course
  exact writes.congr course.confined.behaviours.symm

/-- In every session a computation has its queries, if rendering deeper takes a course. -/
def HasQueries (computation : Asker α) : Prop :=
  ∀ deeper, (∀ partials nodes, OnCourse .all (deeper partials nodes)) →
    ∀ session, ∃ queries, Asks deeper computation session queries

/-! ## Computations in general -/

/-- What does not depend on how nodes are rendered has no queries. -/
theorem hasQueries_silent {computation : Render α} (runs : OnCourse .all computation) :
    HasQueries fun _ => computation :=
  fun _ _ session => ⟨[], .nothing (runs session session.isInside_all)⟩

/-- Doing nothing has no queries. -/
theorem hasQueries_pure (value : α) : HasQueries fun _ => (pure value : Render α) :=
  hasQueries_silent (onCourse_pure value)

/-- Failing has no queries. -/
theorem hasQueries_throw (failure : Failure) : HasQueries fun _ => (throw failure : Render α) :=
  hasQueries_silent (onCourse_throw failure)

/-- Having nodes rendered is the one query. -/
theorem hasQueries_nodes (partials : Partials) (nodes : List Node) :
    HasQueries fun deeper => deeper partials nodes :=
  fun _ _ _ => ⟨_, .nodes partials nodes⟩

/-- After a computation that has its queries another one has its own, if it has them wherever the
first one succeeds. -/
theorem exists_asks_bind {first : Asker α} {next : α → Asker β} {deeper : Deeper}
    {session : Session} (begins : ∃ queries, Asks deeper first session queries)
    (continues : ∀ value between, first deeper session = (.ok value, between) →
      ∃ more, Asks deeper (next value) between more) :
    ∃ queries, Asks deeper (fun further => first further >>= fun value => next value further)
      session queries := by
  obtain ⟨queries, asks⟩ := begins
  cases ran : first deeper session with
  | mk result between =>
    cases result with
    | ok value =>
      obtain ⟨more, asksMore⟩ := continues value between ran
      exact ⟨queries ++ more, .goesOn asks ran asksMore⟩
    | error failure => exact ⟨queries, .fails asks ran⟩

/-- One computation after the other has the queries of both, or of the first one if that fails. -/
theorem HasQueries.bind {first : Asker α} {next : α → Asker β} (begins : HasQueries first)
    (continues : ∀ value, HasQueries (next value)) :
    HasQueries fun deeper => first deeper >>= fun value => next value deeper :=
  fun deeper runs session => exists_asks_bind (begins deeper runs session)
    fun value between _ => continues value deeper runs between

/-- After a computation without queries there are those of the next one. -/
theorem HasQueries.after {first : Render α} (runs : OnCourse .all first) {next : α → Asker β}
    (continues : ∀ value, HasQueries (next value)) :
    HasQueries fun deeper => first >>= fun value => next value deeper :=
  (hasQueries_silent runs).bind continues

/-- With one more frame a computation has its queries. -/
theorem HasQueries.withFrame {inner : Asker α} (asks : HasQueries inner) (frame : Value) :
    HasQueries fun deeper => Render.withFrame frame (inner deeper) := by
  intro deeper runs session
  obtain ⟨queries, asked⟩ := asks deeper runs { session with frames := frame :: session.frames }
  exact ⟨queries, .withFrame frame asked⟩

/-- In frames of its own a computation has its queries. -/
theorem HasQueries.withFrames {inner : Asker α} (asks : HasQueries inner) (frames : List Value) :
    HasQueries fun deeper => Render.withFrames frames (inner deeper) := by
  intro deeper runs session
  obtain ⟨queries, asked⟩ := asks deeper runs { session with frames := frames }
  exact ⟨queries, .withFrames frames asked⟩

/-- Texts that are joined have the queries of each of them. -/
theorem hasQueries_joinEach {render : α → Asker Text} (asks : ∀ item, HasQueries (render item))
    (items : List α) :
    HasQueries fun deeper => joinEach (fun item => render item deeper) items := by
  induction items with
  | nil => exact hasQueries_pure []
  | cons item items inductionHypothesis =>
    simp only [joinEach_cons]
    exact (asks item).bind fun first => inductionHypothesis.bind fun others =>
      hasQueries_pure (first ++ others)

/-! ## Lambdas -/

section Callback

variable {callback : Text → Asker Text} (asks : ∀ text, HasQueries (callback text))

include asks

/-- What a lambda does has its queries, if the lambda is one of the store: all that it writes is its
own then. -/
theorem exists_asks_run {deeper : Deeper}
    (runs : ∀ partials nodes, OnCourse .all (deeper partials nodes)) {address : Nat}
    (behaviour : Behaviour) {session : Session}
    (owns : ∀ place value, behaviour.Writes place value →
      session.store.Writes address place value) :
    ∃ queries, Asks deeper
      (fun further => behaviour.run address fun text => callback text further) session queries := by
  have looks {session : Session} :
      ∃ queries, Asks deeper (fun _ => (get : Render Session)) session queries :=
    ⟨[], .nothing ⟨[], .stay⟩⟩
  induction behaviour generalizing session with
  | returns value => exact hasQueries_pure value deeper runs session
  | raises message => exact hasQueries_throw _ deeper runs session
  | counts next inductionHypothesis =>
    refine exists_asks_bind looks fun found between ran => ?_
    cases ran
    exact inductionHypothesis _ fun place value writes => owns place value (.counts writes)
  | renders text next inductionHypothesis =>
    obtain ⟨queries, begins⟩ := asks text deeper runs session
    refine exists_asks_bind ⟨queries, begins⟩ fun content between ran => ?_
    exact inductionHypothesis _ fun place value writes =>
      begins.writes runs ran (owns place value (.renders writes))
  | tries text next inductionHypothesis =>
    obtain ⟨queries, begins⟩ := asks text deeper runs session
    refine exists_asks_bind ⟨queries, begins.attempt⟩ fun outcome between ran => ?_
    exact inductionHypothesis _ fun place value writes =>
      begins.attempt.writes runs ran (owns place value (.tries writes))
  | reads place name next inductionHypothesis =>
    refine exists_asks_bind looks fun found between ran => ?_
    cases ran
    exact inductionHypothesis _ fun place value writes => owns place value (.reads writes)
  | writes place name value next inductionHypothesis =>
    have course : session.Course .all [.wrote place] _ :=
      .write name trivial (owns place value .now)
    refine exists_asks_bind ⟨[], .nothing ⟨_, course⟩⟩ fun _ between ran => ?_
    cases ran
    exact inductionHypothesis fun other written writes => owns other written (.later writes)

/-- A call of a lambda has its queries. -/
theorem hasQueries_callLambda (address : Nat) (raw : Text) :
    HasQueries fun deeper => callLambda address raw fun text => callback text deeper := by
  unfold callLambda
  refine .after (fun _ _ => ⟨[], .count address⟩) fun _ deeper runs session => ?_
  refine exists_asks_bind ⟨[], .nothing ⟨[], .stay⟩⟩ fun found between ran => ?_
  cases ran
  cases isThere : session.store.lambdas[address]? with
  | none => exact hasQueries_throw _ deeper runs session
  | some lambda =>
    refine exists_asks_run asks runs _ fun place value writes =>
      ⟨lambda.behaviour, raw, ?_, writes⟩
    simp [Store.behaviours, isThere]

/-- A call has its queries. -/
theorem hasQueries_call (value : Value) (given : Nat) (raw : Text) :
    HasQueries fun deeper => call value given raw fun text => callback text deeper := by
  cases value with
  | lambda address => exact hasQueries_callLambda asks address raw
  | builtIn function =>
    exact hasQueries_silent (@onCourse_callAlone _ (.builtIn function) given raw trivial)
  | object members shown truth role =>
    exact hasQueries_silent ((onCourse .all).callObject _ members role given)
  | _ => exact hasQueries_throw _

end Callback

/-! ## Nodes -/

/-- Rendering a text has the nodes of the text rendered. -/
theorem hasQueries_expand (partials : Partials) (delimiters : Delimiters) (text : Text) :
    HasQueries fun deeper => expand deeper partials delimiters text :=
  .after (onCourse_parse delimiters text) (hasQueries_nodes partials)

/-- Rendering a view has its queries. -/
theorem hasQueries_view (self template data partials : Value) :
    HasQueries fun deeper => view deeper self template data partials := by
  simp only [view_eq]
  refine .after (onCourse_templateOrOwn trivial _) fun chosen => ?_
  refine .after (onCourse_partialsOrOwn self partials) fun source => ?_
  refine .after ((onCourse .all).templateText chosen) fun text => ?_
  exact (hasQueries_expand source .standard text).withFrames _

/-- Computing what a method computes has its queries. -/
theorem hasQueries_compute (self : Value) (method : Method) :
    HasQueries fun deeper => compute deeper self method := by
  cases method with
  | returns value => exact hasQueries_pure value
  | raises message => exact hasQueries_throw _
  | own name => exact hasQueries_silent ((onCourse .all).ownMember self name)
  | ofView method =>
    cases method with
    | template =>
      exact hasQueries_silent ((onCourse_viewTemplate trivial).bind fun _ => onCourse_pure _)
    | fileName className => exact hasQueries_silent ((onCourse .all).fileName self className)
    | render => exact (hasQueries_view self .null .null .null).bind fun _ => hasQueries_pure _
    | partialText => exact hasQueries_throw _
  | clearsCache =>
    exact .after (fun _ _ => ⟨[], .clear⟩) fun _ => hasQueries_pure _
  | needsArguments => exact hasQueries_throw _

/-- Looking a name up has its queries. -/
theorem hasQueries_lookup (name : Text) (frames : List Value) :
    HasQueries fun deeper => lookup deeper name frames := by
  unfold lookup
  refine .after onCourse_get fun session => ?_
  cases Context.find? session.store name frames with
  | none => exact hasQueries_pure _
  | some place =>
    obtain ⟨distance, frame, member⟩ := place
    cases member with
    | stored value => exact (hasQueries_pure value).bind fun _ => hasQueries_pure _
    | computed method =>
      exact (hasQueries_compute frame method).bind fun _ => hasQueries_pure _

/-- Evaluating a lambda has its queries. -/
theorem hasQueries_evaluation (partials : Partials) (function : Value) :
    HasQueries fun deeper => evaluation deeper partials function := by
  have expands := hasQueries_expand partials .standard
  exact (hasQueries_call expands function 1 []).bind fun answer =>
    .after ((onCourse .all).displayed answer) expands

/-- Rendering the body of a block has its queries. -/
theorem hasQueries_body (partials : Partials) (source : Text) (delimiters : Delimiters)
    (nodes : Option (List Node)) :
    HasQueries fun deeper => body deeper partials source delimiters nodes := by
  cases nodes with
  | some nodes => exact hasQueries_nodes partials nodes
  | none => exact hasQueries_expand partials delimiters source

/-- Rendering a block has its queries. -/
theorem hasQueries_block (partials : Partials) (name : Text) (inverted : Bool) (source : Text)
    (delimiters : Delimiters) (nodes : Option (List Node)) :
    HasQueries fun deeper => block deeper partials name inverted source delimiters nodes := by
  have asksBody := hasQueries_body partials source delimiters nodes
  unfold block
  refine .after onCourse_get fun session => (hasQueries_lookup name session.frames).bind ?_
  rintro ⟨frame, value⟩
  refine .after onCourse_get fun session => ?_
  dsimp only
  split
  · split
    · exact hasQueries_pure []
    · exact asksBody
  · cases value.items? with
    | some items => exact hasQueries_joinEach (fun item => asksBody.withFrame item) items
    | none =>
      dsimp only
      split
      · have expands := hasQueries_expand partials delimiters
        refine (hasQueries_call expands value 2 source).bind fun answer => ?_
        refine .after ((onCourse .all).displayed answer) fun text => ?_
        refine .after (onCourse_parse delimiters text) fun replaced => ?_
        exact (hasQueries_nodes partials replaced).withFrame value
      · split
        · exact asksBody.withFrame value
        · exact hasQueries_pure []

/-- Finding the text of an inclusion has its queries. -/
theorem hasQueries_partialText (name : Text) (partials : Partials) :
    HasQueries fun deeper => partialText deeper name partials := by
  cases partials with
  | absent => exact hasQueries_pure []
  | called function =>
    exact hasQueries_silent ((onCourse_callAlone 1 name trivial).bind (onCourse .all).displayed)
  | held holder =>
    exact (hasQueries_lookup name [holder]).bind fun found =>
      hasQueries_silent ((onCourse .all).displayed found.2)
  | filesOf view => exact hasQueries_silent ((onCourse .all).viewPartialText view name)

/-- Rendering an inclusion has its queries. -/
theorem hasQueries_inclusion (partials : Partials) (name indent : Text) :
    HasQueries fun deeper => inclusion deeper partials name indent := by
  unfold inclusion
  exact (hasQueries_partialText name partials).bind fun text =>
    .after (onCourse_note _) fun _ => hasQueries_expand partials .standard _

end Stencil.Render
