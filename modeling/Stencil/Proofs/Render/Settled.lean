import Stencil.Proofs.Cache.Blank
import Stencil.Proofs.Render.Succession

/-!
# Lambdas that are settled

Templates are rendered one after the other (`Request`), and mappings are shared among them. Once a
name has been rendered for which a mapping held a lambda, and no evaluation of this lambda is in
progress any more, there is a text in the place of the lambda. It stays there for ever: no lambda is
called by way of it, and whatever comes by the mapping for the name takes the text as it is
(`Request.settled_of_stops`). This is so as long as no lambda writes into a mapping by itself: one
that does can put the lambda back (`Request.reset_unsettles`).
-/

namespace Stencil

open Render (Asker Asks QueryEvents Events)

/-! ## Texts in mappings -/

/-- What is found under a name after a value was put under one. -/
theorem Entries.lookup_put_text (entries : Entries Key Value) (name other : Text) (value : Value) :
    (entries.put (.text name) value).lookup (.text other) =
      if other = name then some value else entries.lookup (.text other) := by
  have asked : ((.text other : Key) == .text name) = decide (other = name) := by
    rw [Bool.eq_iff_iff, Key.beq_text, decide_eq_true_iff, Key.text.injEq]
  rw [lookup_put, asked]
  by_cases same : other = name
  · simp [same]
  · simp [same]

namespace Store

variable {store : Store} {address other : Nat} {name otherName : Text} {value : Value}

/-- Where a value is written it is found. -/
theorem lookup_write_self (isThere : address < store.mappings.size) :
    ((store.write address name value).entries address).lookup (.text name) = some value := by
  rw [entries_write_self isThere, Entries.lookup_put_text, if_pos rfl]

/-- Elsewhere the same is found as before. -/
theorem lookup_write_of_ne (apart : (other, otherName) ≠ (address, name)) :
    ((store.write address name value).entries other).lookup (.text otherName) =
      (store.entries other).lookup (.text otherName) := by
  by_cases sameAddress : address = other
  · subst sameAddress
    have namesApart : otherName ≠ name := fun same => apart (same ▸ rfl)
    by_cases isThere : address < store.mappings.size
    · rw [entries_write_self isThere, Entries.lookup_put_text, if_neg namesApart]
    · simp [write, entries, isThere]
  · rw [entries_write_of_ne sameAddress]

end Store

namespace Moment

variable {before after : Moment} {address : Nat} {name content : Text}

/-- Under a name a mapping holds a text, which no evaluation in progress will write over. -/
structure Settled (moment : Moment) (address : Nat) (name content : Text) : Prop where
  holds : (moment.session.store.entries address).lookup (.text name) = some (.text content)
  idle : (address, name) ∉ moment.pending

/-- Where there is a text, there is a text at the next moment. -/
theorem Next.exists_text (next : before.Next after)
    (holds : ∃ content,
      (before.session.store.entries address).lookup (.text name) = some (.text content)) :
    ∃ content,
      (after.session.store.entries address).lookup (.text name) = some (.text content) := by
  obtain ⟨content, holds⟩ := holds
  cases next with
  | goesOn keeps => exact ⟨content, keeps address name _ nofun holds⟩
  | begins => exact ⟨content, holds⟩
  | @completes session pending other otherName text =>
    by_cases same : (address, name) = (other, otherName)
    · cases same
      exact ⟨text, Store.lookup_write_self (Store.lt_size_of_lookup holds)⟩
    · exact ⟨content, (Store.lookup_write_of_ne same).trans holds⟩
  | abandons => exact ⟨content, holds⟩

/-- What is settled is settled at the next moment. -/
theorem Next.settled (next : before.Next after) (settled : before.Settled address name content) :
    after.Settled address name content := by
  obtain ⟨holds, idle⟩ := settled
  cases next with
  | goesOn keeps => exact ⟨keeps address name _ nofun holds, idle⟩
  | @begins session pending started other function held isLambda =>
    refine ⟨holds, fun isPending => ?_⟩
    rcases List.mem_cons.mp isPending with same | earlier
    · obtain ⟨rfl, rfl⟩ := Prod.mk.inj same
      rw [held] at holds
      cases holds
      cases isLambda
    · exact idle earlier
  | @completes session pending other otherName text =>
    have apart : (address, name) ≠ (other, otherName) :=
      fun same => idle (same ▸ List.mem_cons_self)
    exact ⟨(Store.lookup_write_of_ne apart).trans holds,
      fun isPending => idle (List.mem_cons_of_mem _ isPending)⟩
  | abandons => exact ⟨holds, fun isPending => idle (List.mem_cons_of_mem _ isPending)⟩

/-- Where there is a text, there is one at all later moments. -/
theorem Comes.exists_text (comes : before.Comes after)
    (holds : ∃ content,
      (before.session.store.entries address).lookup (.text name) = some (.text content)) :
    ∃ content,
      (after.session.store.entries address).lookup (.text name) = some (.text content) := by
  induction comes with
  | refl => exact holds
  | tail _ next inductionHypothesis => exact next.exists_text inductionHypothesis

/-- What is settled stays settled. -/
theorem Comes.settled (comes : before.Comes after) (settled : before.Settled address name content) :
    after.Settled address name content := by
  induction comes with
  | refl => exact settled
  | tail _ next inductionHypothesis => exact next.settled inductionHypothesis

end Moment

/-! ## Names that are resolved to a settled lambda -/

/-- A name is resolved in frames to the mapping at an address. -/
def Session.Resolves (session : Session) (name : Text) (frames : List Value) (address : Nat) :
    Prop :=
  ∃ distance member, Context.find? session.store name frames =
    some (distance, .mapping address, member)

/-- A block as it is rendered for a text: once, in front of the text, or not at all. An inverted one
is rendered if the text is empty. -/
def Render.textBlock (deeper : Deeper) (partials : Partials) (content : Text) (inverted : Bool)
    (source : Text) (delimiters : Delimiters) (nodes : Option (List Node)) : Render Text :=
  match inverted, content.isEmpty with
  | true, true => body deeper partials source delimiters nodes
  | false, false => withFrame (.text content) (body deeper partials source delimiters nodes)
  | true, false | false, true => pure []

namespace Moment.Settled

variable {moment : Moment} {address : Nat} {name content : Text}
  (settled : moment.Settled address name content)

include settled

/-- Looking up a name that is resolved to a text in a mapping finds the text and does nothing. -/
theorem lookup_eq {frames : List Value} (deeper : Render.Deeper)
    (resolves : moment.session.Resolves name frames address) :
    Render.lookup deeper name frames moment.session =
      (.ok (some (.mapping address), .text content), moment.session) := by
  obtain ⟨distance, member, found⟩ := resolves
  obtain ⟨-, holds⟩ := Render.holding?_of_find? found
  have isText : member = .stored (.text content) := by
    have stored : (Value.mapping address).holding? moment.session.store name =
        some (.stored (.text content)) := congrArg (Option.map Member.stored) settled.holds
    exact Option.some.inj (holds.symm.trans stored)
  unfold Render.lookup
  rw [bind_of_get, found, isText]
  rfl

/-- A value whose name is resolved to a text in a mapping outputs the text and does nothing. -/
theorem interpolation_eq (deeper : Render.Deeper) (partials : Partials) (escaped : Bool)
    (resolves : moment.session.Resolves name moment.session.frames address) :
    Render.interpolation deeper partials name escaped moment.session =
      (.ok (if escaped then Text.Entity.escape content else content), moment.session) := by
  rw [Render.interpolation_eq, bind_of_get,
    bind_of_ok (settled.lookup_eq deeper resolves)]
  rfl

/-- A block whose name is resolved to a text in a mapping is rendered for the text. -/
theorem block_eq (deeper : Render.Deeper) (partials : Partials) (inverted : Bool) (source : Text)
    (delimiters : Delimiters) (nodes : Option (List Node))
    (resolves : moment.session.Resolves name moment.session.frames address) :
    Render.block deeper partials name inverted source delimiters nodes moment.session =
      Render.textBlock deeper partials content inverted source delimiters nodes
        moment.session := by
  unfold Render.block
  rw [bind_of_get, bind_of_ok (settled.lookup_eq deeper resolves)]
  dsimp only
  rw [bind_of_get]
  have sameTruth : (Value.text content).truth moment.session.store = !content.isEmpty := rfl
  rw [sameTruth]
  unfold Render.textBlock
  cases inverted <;> cases content.isEmpty <;> rfl

end Moment.Settled

/-- Where a name has been rendered for which a mapping held a lambda, the mapping holds a text. -/
theorem Rendering.Evaluates.exists_text {rendering : Rendering} {address : Nat} {name : Text}
    {function : Value} (evaluates : rendering.Evaluates address name function)
    (succeeded : ∃ text, rendering.outcome.1 = .ok text) :
    ∃ content, (rendering.stop.session.store.entries address).lookup (.text name) =
      some (.text content) := by
  obtain ⟨text, succeeded⟩ := succeeded
  cases result : (rendering.evaluated function).1 with
  | error failure =>
    rw [(evaluates.stop_of_error result).1] at succeeded
    cases succeeded
  | ok content =>
    obtain ⟨queries, asks⟩ := Render.hasQueries_evaluation rendering.partials function _
      (Render.onCourse_generate_all rendering.depth) rendering.start.session
    obtain ⟨deeds, course⟩ := asks.course (Render.onCourse_generate_all rendering.depth)
    have isThere : address < (rendering.evaluated function).2.store.mappings.size := by
      have sameSize := course.confined.mappings_size
      exact sameSize ▸ Store.lt_size_of_lookup evaluates.held
    rw [(evaluates.stop_of_ok result).2]
    exact ⟨content, Store.lookup_write_self isThere⟩

/-! ## Templates one after the other -/

/-- A template to be rendered with data. -/
structure Request where
  partials : Partials
  delimiters : Delimiters
  text : Text
  data : Value

namespace Request

/-- The rendering of the template, given how nodes are rendered. -/
def asker (request : Request) : Asker Text := fun deeper =>
  Render.withFrames (match request.data with | .null => [] | _ => [request.data])
    (Render.expand deeper request.partials request.delimiters request.text)

/-- The rendering of the template. -/
def run (request : Request) : Render Text :=
  Render.template request.partials request.delimiters request.text request.data

/-- What happens while a template is rendered from a session on. -/
def Happens (request : Request) (session : Session) (events : List Event) : Prop :=
  ∃ queries, Asks (Render.generate Render.depthLimit) request.asker session queries ∧
    QueryEvents (Events Render.depthLimit) [] queries events

/-- What happens while templates are rendered one after the other, from a session on. It does not
matter which of them fail. -/
inductive Happen : List Request → Session → List Event → Prop where
  | nil {session} : Happen [] session []
  | cons {request requests session events more} (first : request.Happens session events)
      (others : Happen requests (request.run session).2 more) :
      Happen (request :: requests) session (events ++ more)

/-- Whatever templates are rendered, something happens. -/
theorem exists_happen (requests : List Request) (session : Session) :
    ∃ events, Happen requests session events := by
  induction requests generalizing session with
  | nil => exact ⟨[], .nil⟩
  | cons request requests inductionHypothesis =>
    have hasQueries : Render.HasQueries request.asker :=
      (Render.hasQueries_expand request.partials request.delimiters request.text).withFrames _
    obtain ⟨queries, asks⟩ := hasQueries (Render.generate Render.depthLimit)
      (Render.onCourse_generate_all Render.depthLimit) session
    obtain ⟨events, meanwhile⟩ := Render.exists_queryEvents
      (Render.exists_events Render.depthLimit) [] queries
    obtain ⟨more, others⟩ := inductionHypothesis (request.run session).2
    exact ⟨events ++ more, .cons ⟨queries, asks, meanwhile⟩ others⟩

/-- What happens leads from one moment to the next if no lambda writes, and no evaluation is in
progress in the end. -/
theorem Happen.leads {requests : List Request} {session : Session} {events : List Event}
    (nothing : session.store.WritesNothing .all) (happen : Happen requests session events) :
    ∃ after, Render.Leads ⟨session, []⟩ events ⟨after, []⟩ := by
  induction happen with
  | nil => exact ⟨_, .done .refl⟩
  | @cons request _ _ _ _ first _ leadsOthers =>
    obtain ⟨queries, asks, meanwhile⟩ := first
    have runs := Render.onCourse_generate_all Render.depthLimit
    obtain ⟨after, leads⟩ := leadsOthers
      (Render.writesNothing_of_course (asks.course runs) nothing)
    have leadsFirst := asks.leads runs
      (fun _ _ _ _ innerNothing => Render.leads_of_events innerNothing) nothing meanwhile
    exact ⟨after, Render.Leads.trans leadsFirst leads⟩

/-- Once a name has been rendered for which a mapping held a lambda, and no evaluation of this
lambda is in progress, the mapping holds a settled text from then on, if no lambda writes. -/
theorem Happen.exists_settled {requests : List Request} {session : Session}
    {past future : List Event} {now : Event} {rendering : Rendering} {address : Nat}
    {name : Text} {function : Value} (nothing : session.store.WritesNothing .all)
    (happen : Happen requests session (past ++ now :: future))
    (stopped : .stops rendering ∈ past ++ [now])
    (evaluates : rendering.Evaluates address name function)
    (succeeded : ∃ text, rendering.outcome.1 = .ok text)
    (idle : (address, name) ∉ now.moment.pending) :
    ∃ content, ∀ later ∈ now :: future, later.moment.Settled address name content := by
  obtain ⟨after, leads⟩ := happen.leads nothing
  obtain ⟨-, laterInOrder, acrossInOrder⟩ := List.pairwise_append.mp leads.pairwise
  have comes : rendering.stop.Comes now.moment := by
    rcases List.mem_append.mp stopped with isPast | isNow
    · exact acrossInOrder _ isPast now List.mem_cons_self
    · cases List.mem_singleton.mp isNow
      exact .refl
  obtain ⟨content, holds⟩ := Moment.Comes.exists_text comes (evaluates.exists_text succeeded)
  have settledNow : now.moment.Settled address name content := ⟨holds, idle⟩
  refine ⟨content, fun later isLater => ?_⟩
  rcases List.mem_cons.mp isLater with rfl | isFuture
  · exact settledNow
  · exact Moment.Comes.settled ((List.pairwise_cons.mp laterInOrder).1 later isFuture) settledNow

/-- A settled lambda stays settled where no lambda writes into a mapping by itself. Templates are
rendered one after the other, and some may fail. By some event a name has been rendered for which a
mapping held a lambda, and no evaluation of this lambda is in progress at the event. Then from that
event on the mapping holds the same text under the name. Whoever looks the name up and comes by the
mapping finds the text, so that no lambda is called by way of it. Where the name is resolved to the
mapping, a value outputs just this text and does nothing else, and a block is rendered as it is for
a text. -/
theorem settled_of_stops (requests : List Request) (session : Session) :
    (∃ events, Happen requests session events) ∧
    ∀ events past now future rendering address name function,
      session.store.WritesNothing .all → Happen requests session events →
      events = past ++ now :: future →
      .stops rendering ∈ past ++ [now] → rendering.Evaluates address name function →
      (∃ text, rendering.outcome.1 = .ok text) → (address, name) ∉ now.moment.pending →
      ∃ content, ∀ later ∈ now :: future,
        later.moment.Settled address name content ∧
        (∀ deeper frames, later.moment.session.Resolves name frames address →
          Render.lookup deeper name frames later.moment.session =
            (.ok (some (.mapping address), .text content), later.moment.session)) ∧
        ∀ tag, later = .starts tag →
          tag.start.session.Resolves name tag.start.session.frames address →
          (∀ escaped, tag.node = .interpolation name escaped → tag.outcome =
            (.ok (if escaped then Text.Entity.escape content else content), tag.start.session)) ∧
          ∀ inverted source delimiters nodes,
            tag.node = .block name inverted source delimiters nodes → tag.outcome =
              Render.textBlock (Render.generate tag.depth) tag.partials content inverted source
                delimiters nodes tag.start.session := by
  refine ⟨exists_happen requests session, ?_⟩
  rintro events past now future rendering address name function nothing happen rfl stopped evaluates
    succeeded idle
  obtain ⟨content, settledLater⟩ := happen.exists_settled nothing stopped evaluates succeeded idle
  refine ⟨content, fun later isLater => ?_⟩
  have settled := settledLater later isLater
  refine ⟨settled, fun deeper frames => settled.lookup_eq deeper, ?_⟩
  rintro tag rfl resolves
  constructor
  · intro escaped isInterpolation
    unfold Rendering.outcome
    rw [isInterpolation]
    exact settled.interpolation_eq _ _ escaped resolves
  · intro inverted source delimiters nodes isBlock
    unfold Rendering.outcome
    rw [isBlock]
    exact settled.block_eq _ _ inverted source delimiters nodes resolves

/-- A template with one name. -/
def nameRequest : Request :=
  ⟨.absent, .standard, .of "\x7b\x7ba\x7d\x7d", .mapping 0⟩

/-- A session with a mapping that holds a lambda under the name. -/
def nameSession : Session :=
  .start { Store.empty (.empty none) with
    mappings := #[[(.text (.of "a"), .lambda 0)]]
    lambdas := #[⟨fun _ => .returns (.text (.of "x")), 0⟩] } ⟨[]⟩

/-- The lambda does not write. -/
theorem writesNothing_nameSession : nameSession.store.WritesNothing .all := by
  refine Store.writesNothing_of_forall fun lambda isThere raw place value writes => ?_
  simp only [nameSession, Session.start, List.mem_toArray, List.mem_singleton] at isThere
  subst isThere
  cases writes

/-- The session in which the name is rendered. -/
def parsedSession : Session :=
  (Render.parse .standard nameRequest.text { nameSession with frames := [.mapping 0] }).2

/-- The name as it is rendered. -/
def nameRendering : Rendering :=
  ⟨999999, .absent, .interpolation (.of "a") true, ⟨parsedSession, []⟩⟩

/-- The name is resolved to the lambda. -/
theorem evaluates_nameRendering : nameRendering.Evaluates 0 (.of "a") (.lambda 0) :=
  ⟨⟨true, rfl⟩, ⟨0, rfl⟩, rfl⟩

/-- The template is its one name. -/
theorem parse_nameText : Template.parse .standard nameRequest.text =
    ([], .ok [.interpolation (.of "a") true]) := by
  cbv

/-- In the session the template is parsed to its one name. -/
theorem parse_nameRequest :
    Render.parse .standard nameRequest.text { nameSession with frames := [.mapping 0] } =
      (.ok [.interpolation (.of "a") true], parsedSession) :=
  Render.parse_of_absent (Cache.Contains.empty none).find?_eq_none parse_nameText

/-- The answer of the lambda is rendered to itself. -/
theorem evaluated_nameRendering : (nameRendering.evaluated (.lambda 0)).1 = .ok (.of "x") := by
  have nodes : Template.parse .standard (.of "x") = ([], .ok [.literal (.of "x")]) := by
    cbv
  have contains : Cache.Contains (fun present _ => present ≠ .of .standard (.of "x"))
      parsedSession.store.cache := by
    refine Cache.Contains.parse (.empty none) ?_ ?_
    · rw [parse_nameText]
      exact fun _ _ _ isBody => absurd isBody List.not_mem_nil
    · exact fun _ _ same => absurd (congrArg Cache.Key.source same) (by decide)
  let answered : Session := { parsedSession with store := parsedSession.store.countCall 0 }
  have called : Render.call (.lambda 0) 1 []
      (Render.expand (Render.generate 999999) .absent .standard) parsedSession =
        (.ok (.text (.of "x")), answered) := rfl
  have shown : Render.displayed (.text (.of "x")) answered = (.ok (.of "x"), answered) := rfl
  have ran : Render.parse .standard (.of "x") answered =
      (.ok [.literal (.of "x")], (Render.parse .standard (.of "x") answered).2) :=
    Render.parse_of_absent contains.find?_eq_none nodes
  change (Render.evaluation (Render.generate 999999) .absent (.lambda 0) parsedSession).1 = _
  unfold Render.evaluation
  rw [bind_of_ok called, bind_of_ok shown]
  unfold Render.expand
  rw [bind_of_ok ran]
  rfl

/-- Once the name has been rendered the mapping holds a text for it that is settled. -/
theorem settled_of_stops_nameRequest :
    nameSession.store.WritesNothing .all ∧ ∃ events past,
      Happen [nameRequest] nameSession events ∧
      events = past ++ [.stops nameRendering] ∧
      nameRendering.Evaluates 0 (.of "a") (.lambda 0) ∧
      (∃ text, nameRendering.outcome.1 = .ok text) ∧
      ∃ content, nameRendering.stop.Settled 0 (.of "a") content := by
  have evaluates := evaluates_nameRendering
  obtain ⟨succeeded, -⟩ := evaluates.stop_of_ok evaluated_nameRendering
  obtain ⟨queries, asks⟩ := Render.hasQueries_evaluation .absent (.lambda 0)
    (Render.generate 999999) (Render.onCourse_generate_all 999999) parsedSession
  obtain ⟨inner, meanwhile⟩ := Render.exists_queryEvents (Render.exists_events 999999)
    [(0, .of "a")] queries
  obtain ⟨text, succeeded⟩ := succeeded
  have happensBelow : Events (999999 + 1) .absent [.interpolation (.of "a") true]
      ⟨parsedSession, []⟩ _ := .goesOn (.evaluating evaluates asks meanwhile) succeeded .nil
  have asksBelow : Asks (Render.generate Render.depthLimit) nameRequest.asker nameSession
      [⟨.absent, [.interpolation (.of "a") true], parsedSession⟩] :=
    .withFrames [.mapping 0] (.goesOn (.nothing ⟨_, .parse _ _⟩) parse_nameRequest (.nodes _ _))
  have happen : Happen [nameRequest] nameSession _ :=
    .cons ⟨_, asksBelow, .cons happensBelow .nil⟩ .nil
  rw [List.append_nil, List.append_nil, List.append_nil] at happen
  let past : List Event := .starts nameRendering :: .begins nameRendering 0 (.of "a") ::
    (inner ++ [.ends nameRendering 0 (.of "a") (.lambda 0)])
  have last : .starts nameRendering :: .begins nameRendering 0 (.of "a") ::
      (inner ++ [.ends nameRendering 0 (.of "a") (.lambda 0), .stops nameRendering]) =
      past ++ [.stops nameRendering] := by
    simp [past]
  obtain ⟨content, settled⟩ := (settled_of_stops [nameRequest] nameSession).2 _ past
    (.stops nameRendering) [] nameRendering 0 (.of "a") (.lambda 0) writesNothing_nameSession
    happen last (by simp) evaluates ⟨text, succeeded⟩ List.not_mem_nil
  exact ⟨writesNothing_nameSession, _, past, happen, last, evaluates, ⟨text, succeeded⟩, content,
    (settled _ List.mem_cons_self).1⟩

/-! ## A lambda that puts another one back -/

/-- The name of a lambda that answers with an empty text. -/
def blankName : Text :=
  .of "n"

/-- The name of a lambda that writes the other one into the mapping. -/
def resetName : Text :=
  .of "reset"

/-- A session with both lambdas, or with what has come of them in their mapping. -/
def resetSession (blank reset : Value) (calls resets : Nat) (cache : Cache)
    (log : List LogEvent) : Session where
  store :=
    { Store.empty cache with
      mappings := #[[(.text blankName, blank), (.text resetName, reset)]]
      lambdas := #[⟨fun _ => .returns (.text []), calls⟩,
        ⟨fun _ => .writes 0 blankName (.lambda 0) (.returns (.text [])), resets⟩] }
  frames := [.mapping 0]
  files := ⟨[]⟩
  log := log

section Reset

variable (calls resets : Nat) {cache : Cache} (log : List LogEvent) (isBlank : cache.IsBlank)

include isBlank

/-- Rendering the first name calls the lambda and writes over it. -/
theorem generate_blankName (reset : Value) :
    ∃ next more, next.IsBlank ∧
      Render.generate 2 .absent [.interpolation blankName false]
        (resetSession (.lambda 0) reset calls resets cache log) =
          (.ok [], resetSession (.text []) reset (calls + 1) resets next more) := by
  have found : Context.find? (resetSession (.lambda 0) reset calls resets cache log).store
      blankName [.mapping 0] = some (0, .mapping 0, .stored (.lambda 0)) := rfl
  refine ⟨(cache.parse .standard []).cache, (cache.parse .standard []).log.reverse ++ log,
    Cache.invariant_isBlank.parse (.empty cache) .standard [] isBlank, ?_⟩
  change Render.interpolation (Render.generate 1) .absent blankName false _ = _
  rw [Render.interpolation_of_blank false found rfl rfl isBlank]
  rfl

/-- Rendering the second name puts the lambda of the first one back. -/
theorem generate_resetName (blank : Value) :
    ∃ next more, next.IsBlank ∧
      Render.generate 2 .absent [.interpolation resetName false]
        (resetSession blank (.lambda 1) calls resets cache log) =
          (.ok [], resetSession (.lambda 0) (.text []) calls (resets + 1) next more) := by
  have found : Context.find? (resetSession blank (.lambda 1) calls resets cache log).store
      resetName [.mapping 0] = some (0, .mapping 0, .stored (.lambda 1)) := rfl
  refine ⟨(cache.parse .standard []).cache, (cache.parse .standard []).log.reverse ++ log,
    Cache.invariant_isBlank.parse (.empty cache) .standard [] isBlank, ?_⟩
  change Render.interpolation (Render.generate 1) .absent resetName false _ = _
  rw [Render.interpolation_of_blank false found rfl rfl isBlank]
  rfl

end Reset

/-- A lambda is not settled for ever where another lambda writes it back into the mapping: the first
name has been rendered, there is a text in the mapping, and later there is the lambda again, which
is called once more. -/
theorem reset_unsettles :
    ∃ first second third,
      Render.generate 2 .absent [.interpolation blankName false]
        (resetSession (.lambda 0) (.lambda 1) 0 0 (.empty none) []) = (.ok [], first) ∧
      (first.store.entries 0).lookup (.text blankName) = some (.text []) ∧
      Render.generate 2 .absent [.interpolation resetName false] first = (.ok [], second) ∧
      (second.store.entries 0).lookup (.text blankName) = some (.lambda 0) ∧
      Render.generate 2 .absent [.interpolation blankName false] second = (.ok [], third) ∧
      first.store.calls 0 = 1 ∧ third.store.calls 0 = 2 := by
  obtain ⟨cache, log, isBlank, first⟩ :=
    generate_blankName 0 0 [] (.empty none : Cache.IsBlank (.empty none)) (.lambda 1)
  obtain ⟨nextCache, nextLog, nextBlank, second⟩ := generate_resetName 1 0 log isBlank (.text [])
  obtain ⟨_, _, -, third⟩ := generate_blankName 1 1 nextLog nextBlank (.text [])
  exact ⟨_, _, _, first, rfl, second, rfl, third, rfl, rfl⟩

end Request

end Stencil
