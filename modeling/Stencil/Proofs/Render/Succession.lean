import Mathlib.Logic.Relation
import Stencil.Proofs.Render.Timeline

/-!
# From one event to the next

While nodes are rendered, only a few things happen from one event to the next (`Moment.Next`): what
is no lambda stays in its mapping, an evaluation begins, or the innermost one comes to an end and
may leave a text in the place of the lambda. The events of a rendering lead in this way from where
it starts to where it ends (`Render.leads_of_events`), if no lambda writes into a mapping by itself.
-/

namespace Stencil

open Render (Query Asks)

/-- What is no lambda stays where it is in its mapping. -/
def Store.Keeps (before after : Store) : Prop :=
  ∀ address name value, value.kind ≠ .lambda →
    (before.entries address).lookup (.text name) = some value →
      (after.entries address).lookup (.text name) = some value

namespace Store.Keeps

/-- A store keeps what it has. -/
theorem refl (store : Store) : store.Keeps store :=
  fun _ _ _ _ held => held

/-- Where no lambda wrote by itself, what is no lambda is kept. -/
theorem of_confined {before after : Store} {deeds : List Deed}
    (confined : before.Confined deeds after) (notWrote : ∀ address, .wrote address ∉ deeds) :
    before.Keeps after := by
  intro address name value notLambda held
  have leaves := confined.entries address (notWrote address)
  generalize before.entries address = old, after.entries address = new at held leaves ⊢
  induction leaves with
  | nil => cases held
  | @cons first _ _ _ head _ inductionHypothesis =>
    obtain ⟨key, kept⟩ := first
    cases isThere : (Key.text name == key) with
    | false =>
      cases head with
      | asItWas | asText =>
        simp only [List.lookup_cons, isThere] at held ⊢
        exact inductionHypothesis held
    | true =>
      cases head with
      | asItWas => simpa only [List.lookup_cons, isThere] using held
      | asText isLambda _ =>
        simp only [List.lookup_cons, isThere, Option.some.injEq] at held
        exact absurd (held ▸ isLambda) notLambda

end Store.Keeps

namespace Moment

/-- How a moment can follow on another one. -/
inductive Next : Moment → Moment → Prop where
  /-- Nothing happens but that lambdas in mappings may be written over. -/
  | goesOn {session after pending} (keeps : session.store.Keeps after.store) :
      Next ⟨session, pending⟩ ⟨after, pending⟩
  /-- The evaluation of a lambda begins. -/
  | begins {session pending address name function}
      (held : (session.store.entries address).lookup (.text name) = some function)
      (isLambda : function.kind = .lambda) :
      Next ⟨session, pending⟩ ⟨session, (address, name) :: pending⟩
  /-- The innermost evaluation ends with a text in the place of the lambda. -/
  | completes {session pending address name} (text : Text) :
      Next ⟨session, (address, name) :: pending⟩
        ⟨{ session with store := session.store.write address name (.text text) }, pending⟩
  /-- The innermost evaluation ends with a failure. -/
  | abandons {session pending evaluation} :
      Next ⟨session, evaluation :: pending⟩ ⟨session, pending⟩

/-- A moment comes after another one, or is the same. -/
abbrev Comes : Moment → Moment → Prop :=
  Relation.ReflTransGen Next

end Moment

namespace Render

/-- Events lead from a moment to another one: each of them comes after the one before. -/
inductive Leads : Moment → List Event → Moment → Prop where
  | done {before after} (comes : before.Comes after) : Leads before [] after
  | next {before event events after} (comes : before.Comes event.moment)
      (further : Leads event.moment events after) : Leads before (event :: events) after

namespace Leads

variable {before between after : Moment} {events more : List Event}

/-- Events that lead to a moment lead to later ones. -/
theorem comes (leads : Leads before events between) (comes : between.Comes after) :
    Leads before events after := by
  induction leads with
  | done earlier => exact .done (earlier.trans comes)
  | next earlier _ inductionHypothesis => exact .next earlier (inductionHypothesis comes)

/-- Events that lead on from a moment lead on from earlier ones. -/
theorem of_comes (comes : before.Comes between) (leads : Leads between events after) :
    Leads before events after := by
  cases leads with
  | done later => exact .done (comes.trans later)
  | next later further => exact .next (comes.trans later) further

/-- Events that lead to where others lead on lead on with them. -/
theorem trans (first : Leads before events between) (next : Leads between more after) :
    Leads before (events ++ more) after := by
  induction first with
  | done comes => exact next.of_comes comes
  | next comes _ inductionHypothesis => exact .next comes (inductionHypothesis next)

/-- All events come after the moment from which they lead on. -/
theorem comes_of_mem (leads : Leads before events after) {event : Event}
    (happens : event ∈ events) : before.Comes event.moment := by
  induction leads with
  | done => cases happens
  | next comes _ inductionHypothesis =>
    rcases List.mem_cons.mp happens with rfl | later
    · exact comes
    · exact comes.trans (inductionHypothesis later)

/-- Every event comes after those that happen before. -/
theorem pairwise (leads : Leads before events after) :
    events.Pairwise fun earlier later => earlier.moment.Comes later.moment := by
  induction leads with
  | done => exact .nil
  | next _ further inductionHypothesis =>
    exact .cons (fun _ later => further.comes_of_mem later) inductionHypothesis

end Leads

/-- The events of queries are those of the first ones and then those of the others. -/
theorem queryEvents_append {below : Partials → List Node → Moment → List Event → Prop}
    {pending : List (Nat × Text)} {queries more : List Query} {events : List Event}
    (meanwhile : QueryEvents below pending (queries ++ more) events) :
    ∃ first others, events = first ++ others ∧ QueryEvents below pending queries first ∧
      QueryEvents below pending more others := by
  induction queries generalizing events with
  | nil => exact ⟨[], events, rfl, .nil, meanwhile⟩
  | cons query queries inductionHypothesis =>
    cases meanwhile with
    | cons first rest =>
      obtain ⟨further, others, rfl, earlier, later⟩ := inductionHypothesis rest
      exact ⟨_, others, (List.append_assoc _ _ _).symm, .cons first earlier, later⟩

/-- What is on course leaves it at that if no lambda writes. -/
theorem writesNothing_of_course {session after : Session}
    (course : ∃ deeds, session.Course .all deeds after)
    (nothing : session.store.WritesNothing .all) : after.store.WritesNothing .all := by
  obtain ⟨deeds, course⟩ := course
  exact nothing.congr course.confined.behaviours

/-- If the events of nodes one level deeper lead to where these have been rendered, the events of
queries lead to where the computation has been run, as long as no lambda writes. -/
theorem Asks.leads {α : Type} {below : Partials → List Node → Moment → List Event → Prop}
    {deeper : Deeper} {computation : Asker α} {session : Session} {queries : List Query}
    {pending : List (Nat × Text)} {events : List Event}
    (asks : Asks deeper computation session queries)
    (runs : ∀ partials nodes, OnCourse .all (deeper partials nodes))
    (leads_below : ∀ partials nodes inner events, inner.store.WritesNothing .all →
      below partials nodes ⟨inner, pending⟩ events →
        Leads ⟨inner, pending⟩ events ⟨(deeper partials nodes inner).2, pending⟩)
    (nothing : session.store.WritesNothing .all)
    (meanwhile : QueryEvents below pending queries events) :
    Leads ⟨session, pending⟩ events ⟨(computation deeper session).2, pending⟩ := by
  have stays {first second : Session} (same : second.store = first.store) :
      Moment.Comes ⟨first, pending⟩ ⟨second, pending⟩ :=
    .single (.goesOn (same ▸ .refl _))
  induction asks generalizing events with
  | nothing course =>
    cases meanwhile
    obtain ⟨deeds, course⟩ := course
    exact .done (.single (.goesOn (.of_confined course.confined (course.not_wrote nothing))))
  | nodes partials nodes =>
    cases meanwhile with
    | cons first others =>
      cases others
      rw [List.append_nil]
      exact leads_below _ _ _ _ nothing first
  | fails _ ran leadsFirst =>
    have leads := leadsFirst nothing meanwhile
    rw [ran] at leads
    dsimp only
    rwa [bind_of_error ran]
  | goesOn begins ran _ leadsFirst leadsNext =>
    obtain ⟨first, others, rfl, earlier, later⟩ := queryEvents_append meanwhile
    have leads := leadsFirst nothing earlier
    have course := begins.course runs
    rw [ran] at leads course
    dsimp only
    rw [bind_of_ok ran]
    exact leads.trans (leadsNext (writesNothing_of_course course nothing) later)
  | attempt _ leadsInner => exact leadsInner nothing meanwhile
  | withFrame frame _ leadsInner =>
    refine .of_comes ?_ ((leadsInner nothing meanwhile).comes ?_)
    · exact stays rfl
    · exact stays rfl
  | withFrames frames _ leadsInner =>
    refine .of_comes ?_ ((leadsInner nothing meanwhile).comes ?_)
    · exact stays rfl
    · exact stays rfl

end Render

namespace Rendering

variable {rendering : Rendering} {address : Nat} {name : Text} {function : Value}

/-- The rendering of a node takes a course. -/
theorem course (rendering : Rendering) :
    ∃ deeds, rendering.start.session.Course .all deeds rendering.stop.session :=
  Render.onCourse_node (fun partials nodes _ => Render.onCourse_generate_all _ partials nodes)
    (fun _ _ => trivial) rendering.node _ rendering.start.session.isInside_all

/-- The mapping holds the lambda that is evaluated. -/
theorem Evaluates.held (evaluates : rendering.Evaluates address name function) :
    (rendering.start.session.store.entries address).lookup (.text name) = some function := by
  obtain ⟨distance, found⟩ := evaluates.found
  obtain ⟨-, holds⟩ := Render.holding?_of_find? found
  obtain ⟨held, isHeld, same⟩ := Option.map_eq_some_iff.mp holds
  cases same
  exact isHeld

/-- A node that evaluates a lambda does nothing else. -/
theorem Evaluates.outcome_eq (evaluates : rendering.Evaluates address name function) :
    ∃ escaped : Bool, rendering.outcome = (do
      let text ← Render.settle (Render.generate rendering.depth) rendering.partials
        (some (.mapping address)) name function
      return if escaped then Text.Entity.escape text else text : Render Text)
        rendering.start.session := by
  obtain ⟨depth, partials, node, session, pending⟩ := rendering
  obtain ⟨⟨escaped, rfl⟩, ⟨distance, found⟩, isLambda⟩ := evaluates
  have ran : Render.lookup (Render.generate depth) name session.frames session =
      (.ok (some (.mapping address), function), session) := by
    unfold Render.lookup
    rw [bind_of_get, found]
    rfl
  refine ⟨escaped, ?_⟩
  change Render.interpolation (Render.generate depth) partials name escaped session = _
  rw [Render.interpolation_eq, bind_of_get, bind_of_ok ran]
  dsimp only
  rw [if_pos isLambda]

/-- If the evaluation of a lambda fails, nothing is written. -/
theorem Evaluates.stop_of_error (evaluates : rendering.Evaluates address name function)
    {failure : Failure} (failed : (rendering.evaluated function).1 = .error failure) :
    rendering.outcome.1 = .error failure ∧
      rendering.stop = ⟨(rendering.evaluated function).2, rendering.start.pending⟩ := by
  obtain ⟨escaped, same⟩ := evaluates.outcome_eq
  have ran : rendering.evaluated function = (.error failure, (rendering.evaluated function).2) :=
    Prod.ext failed rfl
  have settled : Render.settle (Render.generate rendering.depth) rendering.partials
      (some (.mapping address)) name function rendering.start.session =
        (.error failure, (rendering.evaluated function).2) :=
    bind_of_error ran
  rw [bind_of_error settled] at same
  exact ⟨congrArg Prod.fst same, by rw [stop, same]⟩

/-- If the evaluation of a lambda yields a text, this is written over the lambda. -/
theorem Evaluates.stop_of_ok (evaluates : rendering.Evaluates address name function)
    {text : Text} (succeeded : (rendering.evaluated function).1 = .ok text) :
    (∃ output, rendering.outcome.1 = .ok output) ∧
      rendering.stop = ⟨{ (rendering.evaluated function).2 with
        store := (rendering.evaluated function).2.store.write address name (.text text) },
          rendering.start.pending⟩ := by
  obtain ⟨escaped, same⟩ := evaluates.outcome_eq
  have ran : rendering.evaluated function = (.ok text, (rendering.evaluated function).2) :=
    Prod.ext succeeded rfl
  have settled : Render.settle (Render.generate rendering.depth) rendering.partials
      (some (.mapping address)) name function rendering.start.session =
        (.ok text, { (rendering.evaluated function).2 with
          store := (rendering.evaluated function).2.store.write address name (.text text) }) := by
    unfold Render.settle
    exact bind_of_ok ran
  rw [bind_of_ok settled] at same
  refine ⟨⟨_, congrArg Prod.fst same⟩, ?_⟩
  rw [stop, same]
  rfl

end Rendering

namespace Render

/-- The events of the rendering of a node lead to where it stops. -/
theorem NodeEvents.leads {below : Partials → List Node → Moment → List Event → Prop}
    {rendering : Rendering} {events : List Event} (happens : NodeEvents below rendering events)
    (leads_below : ∀ partials nodes start events, start.session.store.WritesNothing .all →
      below partials nodes start events → Leads start events
        ⟨(generate rendering.depth partials nodes start.session).2, start.pending⟩)
    (nothing : rendering.start.session.store.WritesNothing .all) :
    Leads rendering.start events rendering.stop := by
  have runs := onCourse_generate_all rendering.depth
  cases happens with
  | plain evaluatesNone asks meanwhile =>
    have leads := asks.leads runs (fun partials nodes inner =>
      leads_below partials nodes ⟨inner, _⟩) nothing meanwhile
    exact .next .refl (leads.trans (.next .refl (.done .refl)))
  | evaluating evaluates asks meanwhile =>
    have leads := asks.leads runs (fun partials nodes inner =>
      leads_below partials nodes ⟨inner, _⟩) nothing meanwhile
    refine .next .refl (.next (.single (.begins evaluates.held evaluates.isLambda)) ?_)
    refine leads.trans (.next .refl (.next (.single ?_) (.done .refl)))
    change Moment.Next _ rendering.stop
    cases result : (rendering.evaluated _).1 with
    | error failure =>
      rw [(evaluates.stop_of_error result).2]
      exact .abandons
    | ok text =>
      rw [(evaluates.stop_of_ok result).2]
      exact .completes text

/-- What is made of a result leaves the session as it is. -/
theorem bind_pure_snd {α β : Type} (computation : Render α) (finish : α → β) (session : Session) :
    ((do return finish (← computation)) session : Except Failure β × Session).2 =
      (computation session).2 := by
  cases ran : computation session with
  | mk result after =>
    cases result with
    | ok value => rw [bind_of_ok ran]; rfl
    | error failure => rw [bind_of_error ran]

/-- The events of the rendering of nodes lead to where all of them have been rendered, or to where
one of them failed. -/
theorem NodesEvents.leads {below : Partials → List Node → Moment → List Event → Prop}
    {depth : Nat} {partials : Partials} {nodes : List Node} {start : Moment} {events : List Event}
    (happens : NodesEvents below depth partials nodes start events)
    (leads_below : ∀ partials nodes start events, start.session.store.WritesNothing .all →
      below partials nodes start events →
        Leads start events ⟨(generate depth partials nodes start.session).2, start.pending⟩)
    (nothing : start.session.store.WritesNothing .all) :
    Leads start events
      ⟨(generate (depth + 1) partials nodes start.session).2, start.pending⟩ := by
  induction happens with
  | nil => exact .done .refl
  | @fails node nodes start events failure first failed =>
    have stops : Render.node (generate depth) partials node start.session =
        (.error failure, (Rendering.mk depth partials node start).outcome.2) :=
      Prod.ext failed rfl
    unfold generate
    rw [joinEach_cons, bind_of_error stops]
    exact first.leads leads_below nothing
  | @goesOn node nodes start events text more first succeeded others leadsOthers =>
    have stops : Render.node (generate depth) partials node start.session =
        (.ok text, (Rendering.mk depth partials node start).outcome.2) :=
      Prod.ext succeeded rfl
    unfold generate
    have course := (Rendering.mk depth partials node start).course
    rw [joinEach_cons, bind_of_ok stops, bind_pure_snd]
    exact (first.leads leads_below nothing).trans
      (leadsOthers (writesNothing_of_course course nothing))

/-- The events of a rendering lead to where it ends, if no lambda writes. -/
theorem leads_of_events {depth : Nat} {partials : Partials} {nodes : List Node} {start : Moment}
    {events : List Event} (nothing : start.session.store.WritesNothing .all)
    (happens : Events depth partials nodes start events) :
    Leads start events ⟨(generate depth partials nodes start.session).2, start.pending⟩ := by
  induction depth generalizing partials nodes start events with
  | zero =>
    cases happens
    exact .done .refl
  | succ depth inductionHypothesis =>
    exact NodesEvents.leads happens (fun _ _ _ _ => inductionHypothesis) nothing

end Render

end Stencil
