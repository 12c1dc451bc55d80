import Stencil.Proofs.Cache.Contents
import Stencil.Proofs.Render.Conduct

/-!
# What successful renderings consist of

A rendering that yields a text has yielded the texts of its parts before. The lemmas here take such
a rendering apart: several nodes into one after the other (`Render.exists_of_joinEach_cons_eq_ok`),
and a block into the value that its name has and what is done for that value
(`Render.Blocked`, `Render.blocked_of_block_eq_ok`). A template that the cache does not have is
parsed to its own nodes (`Render.parse_of_absent`).
-/

namespace Stencil.Render

variable {α : Type}

/-- Parsing yields the nodes that the cache comes to. -/
theorem parse_of_result {delimiters : Delimiters} {text : Text} {nodes : List Node}
    {session : Session} (parsed : (session.store.cache.parse delimiters text).result = .ok nodes) :
    parse delimiters text session = (.ok nodes, (parse delimiters text session).2) :=
  Prod.ext (congrArg (Except.mapError Failure.malformed) parsed) rfl

/-- Where parsing yields nodes, they are those that the cache comes to. -/
theorem result_parse_of_ok {delimiters : Delimiters} {text : Text} {nodes : List Node}
    {session after : Session} (ran : parse delimiters text session = (.ok nodes, after)) :
    (session.store.cache.parse delimiters text).result = .ok nodes := by
  have answered : (session.store.cache.parse delimiters text).result.mapError Failure.malformed =
      .ok nodes := congrArg Prod.fst ran
  cases parsed : (session.store.cache.parse delimiters text).result with
  | error error =>
    rw [parsed] at answered
    cases answered
  | ok others =>
    rw [parsed] at answered
    cases answered
    rfl

/-- Where the cache does not have a template, parsing comes to the nodes of the template. -/
theorem parse_of_absent {delimiters : Delimiters} {text : Text} {session : Session}
    {events : List Template.Event} {nodes : List Node}
    (absent : session.store.cache.find? (.of delimiters text) = none)
    (parsed : Template.parse delimiters text = (events, .ok nodes)) :
    parse delimiters text session = (.ok nodes, (parse delimiters text session).2) :=
  parse_of_result ((Cache.parse_of_absent absent).trans (congrArg Prod.snd parsed))

/-- Items are rendered one after the other. -/
theorem joinEach_cons (render : α → Render Text) (item : α) (items : List α) :
    joinEach render (item :: items) = (do
      let first ← render item
      let others ← joinEach render items
      return first ++ others) := by
  cases items with
  | nil => simp [joinEach]
  | cons next items => rfl

/-- The text of several items is the text of the first one and the text of the others. -/
theorem exists_of_joinEach_cons_eq_ok {render : α → Render Text} {item : α} {items : List α}
    {session after : Session} {text : Text}
    (ran : joinEach render (item :: items) session = (.ok text, after)) :
    ∃ first between others, render item session = (.ok first, between) ∧
      joinEach render items between = (.ok others, after) ∧ text = first ++ others := by
  rw [joinEach_cons] at ran
  obtain ⟨first, between, ranFirst, ranRest⟩ := exists_of_bind_eq_ok ran
  obtain ⟨others, last, ranOthers, done⟩ := exists_of_bind_eq_ok ranRest
  cases done
  exact ⟨first, between, others, ranFirst, ranOthers, rfl⟩

/-- While items are rendered one after the other, it is the turn of one of them. -/
inductive Turn (render : α → Render Text) : List α → Session → α → Session → Prop where
  | first {item items session} : Turn render (item :: items) session item session
  | next {item items session text between other point}
      (ran : render item session = (.ok text, between))
      (further : Turn render items between other point) :
      Turn render (item :: items) session other point

/-- Only the items themselves have their turn. -/
theorem Turn.mem {render : α → Render Text} {items : List α} {item : α} {session point : Session}
    (turn : Turn render items session item point) : item ∈ items := by
  induction turn with
  | first => exact List.mem_cons_self
  | next _ _ inductionHypothesis => exact List.mem_cons_of_mem _ inductionHypothesis

/-- What holds of no text, of joined texts and of the text of each item in its turn holds of the
text of all items. -/
theorem joinEach_induction {property : Text → Prop} (empty : property [])
    (append : ∀ first others, property first → property others → property (first ++ others))
    {render : α → Render Text} {items : List α} {session after : Session} {text : Text}
    (ran : joinEach render items session = (.ok text, after))
    (each : ∀ item point part behind, Turn render items session item point →
      render item point = (.ok part, behind) → property part) : property text := by
  induction items generalizing session text with
  | nil =>
    cases ran
    exact empty
  | cons item items inductionHypothesis =>
    obtain ⟨first, between, others, ranFirst, ranOthers, rfl⟩ :=
      exists_of_joinEach_cons_eq_ok ran
    refine append first others (each _ _ _ _ .first ranFirst) (inductionHypothesis ranOthers ?_)
    exact fun other point part behind turn => each other point part behind (.next ranFirst turn)

/-- What is rendered with one more frame is rendered where that is the innermost one. -/
theorem exists_of_withFrame_eq_ok {frame : Value} {inner : Render α} {session after : Session}
    {result : α} (ran : withFrame frame inner session = (.ok result, after)) :
    ∃ last, inner { session with frames := frame :: session.frames } = (.ok result, last) ∧
      after = { last with frames := last.frames.tail } := by
  cases outcome : inner { session with frames := frame :: session.frames } with
  | mk answer last =>
    have same : (answer, { last with frames := last.frames.tail }) = (.ok result, after) := by
      rw [← ran]
      unfold withFrame
      rw [outcome]
    obtain ⟨rfl, rfl⟩ := Prod.mk.inj same
    exact ⟨last, rfl, rfl⟩

/-- What is done for a block whose name has a value. -/
inductive Blocked (deeper : Deeper) (partials : Partials) (source : Text)
    (delimiters : Delimiters) (nodes : Option (List Node)) (value : Value) (session : Session) :
    Bool → Text → Session → Prop where
  /-- An inverted block is not rendered for what is true. -/
  | hidden (holds : value.truth session.store = true) :
      Blocked deeper partials source delimiters nodes value session true [] session
  /-- An inverted block is rendered for what is false. -/
  | instead {text after} (fails : value.truth session.store = false)
      (ran : body deeper partials source delimiters nodes session = (.ok text, after)) :
      Blocked deeper partials source delimiters nodes value session true text after
  /-- A block is rendered for each item of a sequence. -/
  | each {items text after} (hasItems : value.items? = some items)
      (ran : joinEach (fun item => withFrame item (body deeper partials source delimiters nodes))
        items session = (.ok text, after)) :
      Blocked deeper partials source delimiters nodes value session false text after
  /-- What a lambda makes of the text of a block is rendered instead. -/
  | replaced {text after} (isLambda : value.kind = .lambda) :
      Blocked deeper partials source delimiters nodes value session false text after
  /-- A block is rendered once for what is true. -/
  | once {text after} (single : value.items? = none) (notLambda : value.kind ≠ .lambda)
      (holds : value.truth session.store = true)
      (ran : withFrame value (body deeper partials source delimiters nodes) session =
        (.ok text, after)) :
      Blocked deeper partials source delimiters nodes value session false text after
  /-- A block is not rendered for what is false. -/
  | missing (single : value.items? = none) (notLambda : value.kind ≠ .lambda)
      (fails : value.truth session.store = false) :
      Blocked deeper partials source delimiters nodes value session false [] session

/-- A block that is rendered looks its name up, and does what the value asks for. -/
theorem blocked_of_block_eq_ok {deeper : Deeper} {partials : Partials} {name : Text}
    {inverted : Bool} {source : Text} {delimiters : Delimiters} {nodes : Option (List Node)}
    {session after : Session} {text : Text}
    (ran : block deeper partials name inverted source delimiters nodes session =
      (.ok text, after)) :
    ∃ frame value between,
      lookup deeper name session.frames session = (.ok (frame, value), between) ∧
        Blocked deeper partials source delimiters nodes value between inverted text after := by
  unfold block at ran
  rw [bind_of_get] at ran
  obtain ⟨⟨frame, value⟩, between, found, ranRest⟩ := exists_of_bind_eq_ok ran
  refine ⟨frame, value, between, found, ?_⟩
  dsimp only at ranRest
  rw [bind_of_get] at ranRest
  cases inverted with
  | true =>
    cases truth : value.truth between.store with
    | true =>
      simp only [truth, if_true] at ranRest
      cases ranRest
      exact .hidden truth
    | false =>
      simp only [truth, if_true, Bool.false_eq_true, if_false] at ranRest
      exact .instead truth ranRest
  | false =>
    simp only [Bool.false_eq_true, if_false] at ranRest
    cases hasItems : value.items? with
    | some items =>
      rw [hasItems] at ranRest
      exact .each hasItems ranRest
    | none =>
      rw [hasItems] at ranRest
      dsimp only at ranRest
      by_cases isLambda : value.kind = .lambda
      · exact .replaced isLambda
      · rw [if_neg isLambda] at ranRest
        cases truth : value.truth between.store with
        | true =>
          rw [truth, if_pos rfl] at ranRest
          exact .once hasItems isLambda truth ranRest
        | false =>
          rw [truth, if_neg Bool.false_ne_true] at ranRest
          cases ranRest
          exact .missing hasItems isLambda truth

end Stencil.Render
