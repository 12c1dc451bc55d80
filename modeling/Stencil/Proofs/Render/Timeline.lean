import Stencil.Proofs.Render.Query

/-!
# What happens while nodes are rendered

Nodes are rendered one after the other, and while one of them is rendered others may be, for a
lambda or a view that it comes by. The events of a rendering are the moments at which a node starts
and stops being rendered and at which the evaluation of a lambda that a mapping holds begins and
ends (`Render.Events`). A moment is a session together with the evaluations that are in progress.

Every rendering has its events (`Render.exists_events`), whether it fails or not.
-/

namespace Stencil

open Render (Query Asks)

/-! ## Moments and events -/

/-- A session, and the evaluations that are in progress, the innermost first. Of an evaluation it is
said in which mapping and under which name the lambda is. -/
structure Moment where
  session : Session
  pending : List (Nat × Text)

/-- A node as it is rendered at a depth, from a moment on. -/
structure Rendering where
  depth : Nat
  partials : Partials
  node : Node
  start : Moment

namespace Rendering

variable (rendering : Rendering)

/-- What the rendering of a node comes to, and the session afterwards. -/
def outcome : Except Failure Text × Session :=
  Render.node (Render.generate rendering.depth) rendering.partials rendering.node
    rendering.start.session

/-- The moment at which the rendering of a node stops. -/
def stop : Moment :=
  ⟨rendering.outcome.2, rendering.start.pending⟩

/-- What the evaluation of a lambda comes to, and the session afterwards. -/
def evaluated (function : Value) : Except Failure Text × Session :=
  Render.evaluation (Render.generate rendering.depth) rendering.partials function
    rendering.start.session

/-- The node stands for a value, and its name is resolved to a lambda that a mapping which can be
written to holds under it. -/
structure Evaluates (address : Nat) (name : Text) (function : Value) : Prop where
  isInterpolation : ∃ escaped, rendering.node = .interpolation name escaped
  found : ∃ distance, Context.find? rendering.start.session.store name
    rendering.start.session.frames = some (distance, .mapping address, .stored function)
  isLambda : function.kind = .lambda

end Rendering

/-- What happens while nodes are rendered. -/
inductive Event where
  | starts (rendering : Rendering)
  | begins (rendering : Rendering) (address : Nat) (name : Text)
  | ends (rendering : Rendering) (address : Nat) (name : Text) (function : Value)
  | stops (rendering : Rendering)

/-- When an event happens. -/
def Event.moment : Event → Moment
  | .starts rendering => rendering.start
  | .begins rendering address name =>
    ⟨rendering.start.session, (address, name) :: rendering.start.pending⟩
  | .ends rendering address name function =>
    ⟨(rendering.evaluated function).2, (address, name) :: rendering.start.pending⟩
  | .stops rendering => rendering.stop

namespace Render

section Below

/-! The events one level deeper are given. -/

variable (below : Partials → List Node → Moment → List Event → Prop)

/-- The events of queries, one after the other, while some evaluations are in progress. -/
inductive QueryEvents (pending : List (Nat × Text)) : List Query → List Event → Prop where
  | nil : QueryEvents pending [] []
  | cons {query queries events more}
      (first : below query.partials query.nodes ⟨query.session, pending⟩ events)
      (others : QueryEvents pending queries more) :
      QueryEvents pending (query :: queries) (events ++ more)

/-- The events of the rendering of one node. -/
inductive NodeEvents (rendering : Rendering) : List Event → Prop where
  | plain {queries events}
      (evaluatesNone : ∀ address name function, ¬rendering.Evaluates address name function)
      (asks : Asks (generate rendering.depth)
        (fun deeper => node deeper rendering.partials rendering.node) rendering.start.session
        queries)
      (meanwhile : QueryEvents below rendering.start.pending queries events) :
      NodeEvents rendering (.starts rendering :: (events ++ [.stops rendering]))
  | evaluating {address name function queries events}
      (evaluates : rendering.Evaluates address name function)
      (asks : Asks (generate rendering.depth)
        (fun deeper => evaluation deeper rendering.partials function) rendering.start.session
        queries)
      (meanwhile : QueryEvents below ((address, name) :: rendering.start.pending) queries events) :
      NodeEvents rendering (.starts rendering :: .begins rendering address name ::
        (events ++ [.ends rendering address name function, .stops rendering]))

/-- The events of the rendering of nodes, one after the other, up to a failure. -/
inductive NodesEvents (depth : Nat) (partials : Partials) : List Node → Moment → List Event → Prop
    where
  | nil {start} : NodesEvents depth partials [] start []
  | fails {node nodes start events failure}
      (first : NodeEvents below ⟨depth, partials, node, start⟩ events)
      (failed : (Rendering.mk depth partials node start).outcome.1 = .error failure) :
      NodesEvents depth partials (node :: nodes) start events
  | goesOn {node nodes start events text more}
      (first : NodeEvents below ⟨depth, partials, node, start⟩ events)
      (succeeded : (Rendering.mk depth partials node start).outcome.1 = .ok text)
      (others : NodesEvents depth partials nodes (Rendering.mk depth partials node start).stop
        more) :
      NodesEvents depth partials (node :: nodes) start (events ++ more)

end Below

/-- The events of the rendering of nodes, down to a depth. -/
def Events : Nat → Partials → List Node → Moment → List Event → Prop
  | 0, _, _, _, events => events = []
  | depth + 1, partials, nodes, start, events =>
    NodesEvents (Events depth) depth partials nodes start events

/-! ## Every rendering has its events -/

/-- A lambda that a lookup finds in a mapping is what the innermost frame with the name holds. The
lookup has left the session as it was. -/
theorem find?_of_lookup {deeper : Deeper} {name : Text} {frames : List Value} {address : Nat}
    {function : Value} {session after : Session}
    (ran : lookup deeper name frames session = (.ok (some (.mapping address), function), after))
    (isLambda : function.kind = .lambda) :
    (∃ distance, Context.find? session.store name frames =
      some (distance, .mapping address, .stored function)) ∧ after = session := by
  cases found : Context.find? session.store name frames with
  | none =>
    rw [lookup_of_find?_eq_none found] at ran
    obtain ⟨same, -⟩ := Prod.mk.inj ran
    obtain ⟨-, rfl⟩ := Prod.mk.inj (Except.ok.inj same)
    cases isLambda
  | some place =>
    obtain ⟨distance, frame, member⟩ := place
    rw [lookup_of_find? found] at ran
    cases member with
    | stored value =>
      cases ran
      exact ⟨⟨distance, rfl⟩, rfl⟩
    | computed method =>
      obtain ⟨value, between, -, done⟩ := exists_of_bind_eq_ok ran
      cases done
      obtain ⟨-, holds⟩ := holding?_of_find? found
      obtain ⟨_, _, differs⟩ := Option.map_eq_some_iff.mp holds
      cases differs

/-- Rendering deeper takes a course, whatever the partials are. -/
theorem onCourse_generate_all (depth : Nat) (partials : Partials) (nodes : List Node) :
    OnCourse .all (generate depth partials nodes) :=
  onCourse_generate depth partials nodes fun _ _ => trivial

/-- What an interpolation that evaluates nothing asks for. -/
theorem exists_asks_interpolation {rendering : Rendering} {name : Text} {escaped : Bool}
    (isInterpolation : rendering.node = .interpolation name escaped)
    (evaluatesNone : ∀ address name function, ¬rendering.Evaluates address name function) :
    ∃ queries, Asks (generate rendering.depth)
      (fun deeper => interpolation deeper rendering.partials name escaped)
      rendering.start.session queries := by
  obtain ⟨depth, partials, node, session, pending⟩ := rendering
  dsimp only at isInterpolation ⊢
  have runs := onCourse_generate_all depth
  simp only [interpolation_eq]
  refine exists_asks_bind ⟨[], .nothing ⟨[], .stay⟩⟩ fun current between looked => ?_
  cases looked
  refine exists_asks_bind (hasQueries_lookup name session.frames _ runs session)
    fun ⟨frame, value⟩ after ran => ?_
  by_cases isLambda : value.kind = .lambda
  · have remembersNothing (text : Text) : OnCourse .all (remember frame name text) := by
      unfold remember
      split
      · obtain ⟨found, -⟩ := find?_of_lookup ran isLambda
        exact absurd ⟨⟨escaped, isInterpolation⟩, found, isLambda⟩ (evaluatesNone _ name value)
      · exact onCourse_pure _
    have settles : HasQueries fun deeper => settle deeper partials frame name value :=
      (hasQueries_evaluation partials value).bind fun text =>
        .after (remembersNothing text) fun _ => hasQueries_pure text
    simp only [if_pos isLambda]
    exact (settles.bind fun text => hasQueries_pure _) _ runs after
  · simp only [if_neg isLambda]
    exact HasQueries.after ((onCourse .all).displayed value) (fun text => hasQueries_pure _) _ runs
      after

/-- A node that evaluates nothing has its queries. -/
theorem exists_asks_node {rendering : Rendering}
    (evaluatesNone : ∀ address name function, ¬rendering.Evaluates address name function) :
    ∃ queries, Asks (generate rendering.depth)
      (fun deeper => node deeper rendering.partials rendering.node) rendering.start.session
      queries := by
  have runs := onCourse_generate_all rendering.depth
  cases isNode : rendering.node with
  | literal text => exact hasQueries_pure text _ runs _
  | interpolation name escaped => exact exists_asks_interpolation isNode evaluatesNone
  | block name inverted source delimiters nodes => exact hasQueries_block _ _ _ _ _ _ _ runs _
  | inclusion name indent => exact hasQueries_inclusion _ _ _ _ runs _
  | foreign value =>
    exact hasQueries_silent (onCourse_get.bind fun _ => onCourse_throw _) _ runs _

section Exists

variable {below : Partials → List Node → Moment → List Event → Prop}
  (exists_below : ∀ partials nodes start, ∃ events, below partials nodes start events)

include exists_below

/-- Queries have their events. -/
theorem exists_queryEvents (pending : List (Nat × Text)) (queries : List Query) :
    ∃ events, QueryEvents below pending queries events := by
  induction queries with
  | nil => exact ⟨[], .nil⟩
  | cons query queries inductionHypothesis =>
    obtain ⟨events, first⟩ := exists_below query.partials query.nodes ⟨query.session, pending⟩
    obtain ⟨more, others⟩ := inductionHypothesis
    exact ⟨events ++ more, .cons first others⟩

/-- The rendering of a node has its events. -/
theorem exists_nodeEvents (rendering : Rendering) :
    ∃ events, NodeEvents below rendering events := by
  by_cases evaluates : ∃ address name function, rendering.Evaluates address name function
  · obtain ⟨address, name, function, evaluates⟩ := evaluates
    obtain ⟨queries, asks⟩ := hasQueries_evaluation rendering.partials function
      (generate rendering.depth) (onCourse_generate_all rendering.depth) rendering.start.session
    obtain ⟨events, meanwhile⟩ := exists_queryEvents exists_below
      ((address, name) :: rendering.start.pending) queries
    exact ⟨_, .evaluating evaluates asks meanwhile⟩
  · push Not at evaluates
    obtain ⟨queries, asks⟩ := exists_asks_node evaluates
    obtain ⟨events, meanwhile⟩ := exists_queryEvents exists_below rendering.start.pending queries
    exact ⟨_, .plain evaluates asks meanwhile⟩

/-- The rendering of nodes has its events. -/
theorem exists_nodesEvents (depth : Nat) (partials : Partials) (nodes : List Node)
    (start : Moment) : ∃ events, NodesEvents below depth partials nodes start events := by
  induction nodes generalizing start with
  | nil => exact ⟨[], .nil⟩
  | cons node nodes inductionHypothesis =>
    obtain ⟨events, first⟩ := exists_nodeEvents exists_below ⟨depth, partials, node, start⟩
    cases result : (Rendering.mk depth partials node start).outcome.1 with
    | error failure => exact ⟨events, .fails first result⟩
    | ok text =>
      obtain ⟨more, others⟩ := inductionHypothesis (Rendering.mk depth partials node start).stop
      exact ⟨events ++ more, .goesOn first result others⟩

end Exists

/-- Rendering has its events, however deep it goes. -/
theorem exists_events (depth : Nat) (partials : Partials) (nodes : List Node) (start : Moment) :
    ∃ events, Events depth partials nodes start events := by
  induction depth generalizing partials nodes start with
  | zero => exact ⟨[], rfl⟩
  | succ depth inductionHypothesis =>
    exact exists_nodesEvents inductionHypothesis depth partials nodes start

end Render

end Stencil
