import Stencil.Proofs.Cache.Contents
import Stencil.Proofs.Render.Maintains
import Stencil.Proofs.Template.Alone

/-!
# Caches with a history

A cache goes through parses and renderings of any kind (`Cache.after`). Whatever they are, the nodes
that it then has for a template are those of the template, or those of a section body with the same
text that was parsed where it stands (`Cache.Origin`). In the second case the body hides the
template (`Cache.Hides`), and a parse yields the nodes of the body. They are those of the template
exactly if the edges of the body are treated as they are in a template
(`Template.Body.KeepsEdges`).
-/

namespace Stencil

/-- A session that goes through a cache. -/
def Session.through (session : Session) (cache : Cache) : Session :=
  { session with store := { session.store with cache } }

namespace Cache

/-- A call that goes through a cache: a template is parsed, or it is rendered, or a view is. A
rendering has a session for its data, its lambdas and its files. -/
inductive Call where
  | parse (delimiters : Delimiters) (template : Text)
  | render (partials : Partials) (delimiters : Delimiters) (template : Text) (data : Value)
      (session : Session)
  | renderView (view template data partials : Value) (session : Session)

/-- What a call makes of a cache. -/
def perform (cache : Cache) : Call → Cache
  | .parse delimiters template => (cache.parse delimiters template).cache
  | .render partials delimiters template data session =>
    (Render.template partials delimiters template data (session.through cache)).2.store.cache
  | .renderView view template data partials session =>
    (View.callRender view template data partials (session.through cache)).2.store.cache

/-- A cache after some calls. -/
def after (capacity : Option Nat) (calls : List Call) : Cache :=
  calls.foldl perform (empty capacity)

/-! ## What comes into a cache -/

section Contains

variable {property : Key → List Node → Prop}

/-- What templates and bodies have, everything in a cache has after a parse. -/
theorem Contains.invariant
    (fits : ∀ delimiters template nodes, (Template.parse delimiters template).2 = .ok nodes →
      property (.of delimiters template) nodes)
    (fitsBody : ∀ body : Template.Body, property (.of body.delimiters body.source) body.nodes) :
    Store.Invariant fun store => Contains property store.cache where
  parse := by
    intro store delimiters template contains
    apply contains.parse
    · intro reported source nodes member
      obtain ⟨body, rfl, rfl, rfl, -⟩ := Template.exists_body_of_mem_events member
      exact fitsBody body
    · exact fits delimiters template
  miss := fun _ contains => contains.miss
  clear := fun store _ => Contains.empty store.cache.capacity
  write := fun _ _ _ _ contains => contains
  changeSet := fun _ _ _ contains => contains
  countCall := fun _ _ contains => contains

/-- What an invariant says about the cache holds after a call. -/
theorem Contains.perform {cache : Cache}
    (invariant : Store.Invariant fun store => Contains property store.cache)
    (contains : Contains property cache) (call : Call) :
    Contains property (cache.perform call) := by
  cases call with
  | parse delimiters template =>
    exact invariant.parse ⟨#[], #[], #[], cache⟩ delimiters template contains
  | render partials delimiters template data session =>
    exact Render.maintains_template invariant partials delimiters template data
      (session.through cache) contains
  | renderView view template data partials session =>
    exact Render.maintains_callRender invariant view template data partials
      (session.through cache) contains

/-- What an invariant says about the cache holds after any calls. -/
theorem Contains.after (invariant : Store.Invariant fun store => Contains property store.cache)
    (capacity : Option Nat) (calls : List Call) :
    Contains property (Cache.after capacity calls) := by
  have kept : ∀ cache, Contains property cache →
      Contains property (calls.foldl Cache.perform cache) := by
    induction calls with
    | nil => exact fun _ contains => contains
    | cons call calls inductionHypothesis =>
      exact fun cache contains => inductionHypothesis _ (contains.perform invariant call)
  exact kept _ (Contains.empty capacity)

end Contains

/-- Where the nodes under a key come from: the template itself, or a body with its text. -/
def Origin (key : Key) (nodes : List Node) : Prop :=
  (Template.parse key.delimiters key.source).2 = .ok nodes ∨
    ∃ body : Template.Body, body.delimiters = key.delimiters ∧ body.source = key.source ∧
      body.nodes = nodes

/-- Everything in a cache has an origin. -/
theorem contains_origin (capacity : Option Nat) (calls : List Call) :
    Contains Origin (after capacity calls) := by
  apply Contains.after
  apply Contains.invariant
  · exact fun delimiters template nodes parsed => .inl parsed
  · exact fun body => .inr ⟨body, rfl, rfl, rfl⟩

/-! ## Bodies that hide a template -/

/-- A cache has the nodes of a body for a template with the same text. -/
structure Hides (cache : Cache) (delimiters : Delimiters) (template : Text)
    (body : Template.Body) : Prop where
  sameDelimiters : body.delimiters = delimiters
  sameSource : body.source = template
  found : cache.find? (.of delimiters template) = some body.nodes

section Hides

variable {cache : Cache} {delimiters : Delimiters} {template : Text}

/-- A parse yields the nodes of a body that hides the template. -/
theorem Hides.result_eq {body : Template.Body}
    (hides : cache.Hides delimiters template body) :
    (cache.parse delimiters template).result = .ok body.nodes :=
  parse_of_present hides.found

/-- A parse yields what the template comes to exactly if no body that hides it comes to other
nodes. -/
theorem Contains.result_eq_iff (origins : Contains Origin cache) (fresh : Option Nat)
    (delimiters : Delimiters) (template : Text) :
    (cache.parse delimiters template).result =
        ((Cache.empty fresh).parse delimiters template).result ↔
      ∀ body, cache.Hides delimiters template body →
        (Template.parse delimiters template).2 = .ok body.nodes := by
  rw [Cache.parse_empty]
  constructor
  · intro same body hides
    rw [← same, hides.result_eq]
  · intro asFresh
    cases found : cache.find? (.of delimiters template) with
    | none => exact parse_of_absent found
    | some nodes =>
      rcases origins.find? found with parsed | ⟨body, delimitersEq, sourceEq, rfl⟩
      · rw [parse_of_present found]
        exact parsed.symm
      · rw [parse_of_present found, asFresh body ⟨delimitersEq, sourceEq, found⟩]

end Hides

/-! ## One body that hides a template -/

/-- What is stored in a cache without a capacity is found, and everything else as before. -/
theorem find?_put_of_unbounded {cache : Cache} (unbounded : cache.capacity = none)
    (key other : Key) (nodes : List Node) :
    (cache.put key nodes).2.find? other =
      if other = key then some nodes else cache.find? other := by
  have noExcess : (cache.store key nodes).excess = 0 := by
    unfold excess store
    rw [unbounded]
  rw [Cache.find?_eq, Cache.find?_eq, put, entries_trim, noExcess, List.drop_zero, entries_store,
    Entries.lookup_put]
  simp

/-- The only body of a template is found after the template was parsed. -/
theorem find?_parse_body {delimiters reported : Delimiters} {template source : Text}
    {body nodes : List Node}
    (parsed : Template.parse delimiters template =
      ([.bodyParsed reported source body], .ok nodes))
    (apart : source ≠ template) :
    (unbounded.parse delimiters template).cache.find? (.of reported source) = some body := by
  have keysApart : Key.of reported source ≠ .of delimiters template :=
    fun same => apart (Key.eq_iff.mp same).2
  have absent (key : Key) : unbounded.miss.find? key = none := by
    rw [Cache.find?_eq]
    rfl
  have bodyFound := find?_put_of_unbounded (rfl : unbounded.miss.capacity = none)
    (.of reported source)
  have stillAbsent : (unbounded.miss.put (.of reported source) body).2.find?
      (.of delimiters template) = none := by
    rw [bodyFound, if_neg keysApart.symm, absent]
  have absentAtFirst : unbounded.find? (.of delimiters template) = none := absent _
  unfold Cache.parse Cache.get
  rw [absentAtFirst, parsed]
  simp only [recordAll, record, putIfAbsent, stillAbsent]
  rw [find?_put_of_unbounded rfl, if_neg keysApart, bodyFound, if_pos rfl]

/-- A template that comes to one literal is rendered as that. -/
theorem render_literal (session : Session) (partials : Partials) (data : Value)
    {delimiters : Delimiters} {template text : Text}
    (parsed : (session.store.cache.parse delimiters template).result = .ok [.literal text]) :
    (Render.template partials delimiters template data session).1 = .ok text := by
  have rendered (depth : Nat) (frames : List Value) :
      (Render.withFrames frames (Render.expand (Render.generate (depth + 1)) partials delimiters
        template) session).1 = .ok text := by
    let inner : Session := { session with frames }
    have asked : (Render.parse delimiters template inner).1 = .ok [.literal text] := by
      change Except.mapError _ (session.store.cache.parse delimiters template).result = _
      rw [parsed]
      rfl
    have ran : Render.parse delimiters template inner =
        (.ok [.literal text], (Render.parse delimiters template inner).2) :=
      Prod.ext asked rfl
    change ((Render.parse delimiters template >>=
      Render.generate (depth + 1) partials) inner).1 = .ok text
    rw [bind_of_ok ran]
    rfl
  exact rendered 999999 _

/-- A comment at the end of its line. -/
def commentTemplate : Text :=
  .of "\x7b\x7b! c \x7d\x7d\nb"

/-- The comment in a section, where no line begins before it. -/
def sectionTemplate : Text :=
  .of "a\x7b\x7b#s\x7d\x7d\x7b\x7b! c \x7d\x7d\nb\x7b\x7b/s\x7d\x7d"

/-- A session without data, lambdas and files, that goes through a cache. -/
def bareSession (cache : Cache) : Session :=
  .start (.empty cache) ⟨[]⟩

/-- After the section the line break behind the comment is there again. -/
theorem result_parse_commentTemplate :
    ((after none [.parse .standard sectionTemplate]).parse .standard commentTemplate).result =
      .ok [.literal (.of "\nb")] := by
  have parsed : Template.parse .standard sectionTemplate =
      ([.bodyParsed .standard commentTemplate [.literal (.of "\nb")]],
        .ok [.literal (.of "a"), .block (.of "s") false commentTemplate .standard
          (some [.literal (.of "\nb")])]) := by
    cbv
  exact parse_of_present (find?_parse_body parsed (by decide))

/-- Without the section the line break disappears with the comment. -/
theorem result_parse_commentTemplate_fresh :
    (unbounded.parse .standard commentTemplate).result = .ok [.literal (.of "b")] := by
  have parsed : Template.parse .standard commentTemplate = ([], .ok [.literal (.of "b")]) := by
    cbv
  rw [unbounded, parse_empty, parsed]

/-- The line break makes a difference. -/
theorem literals_ne : [Node.literal (.of "\nb")] ≠ [.literal (.of "b")] := by
  intro same
  have texts := Node.literal.inj (List.cons.inj same).1
  exact absurd texts (by decide)

/-- After any calls, a parse yields what it yields without them exactly if every body that hides the
template comes to the nodes of the template. Between solid delimiters these are the bodies whose
edges are treated alike. -/
theorem result_parse_eq_iff (capacity fresh : Option Nat) (calls : List Call)
    (delimiters : Delimiters) (template : Text) :
    (((after capacity calls).parse delimiters template).result =
        ((empty fresh).parse delimiters template).result ↔
      ∀ body, (after capacity calls).Hides delimiters template body →
        (Template.parse delimiters template).2 = .ok body.nodes) ∧
    (delimiters.AreSolid →
      (((after capacity calls).parse delimiters template).result =
          ((empty fresh).parse delimiters template).result ↔
        ∀ body, (after capacity calls).Hides delimiters template body → body.KeepsEdges)) := by
  have iff := (contains_origin capacity calls).result_eq_iff fresh delimiters template
  refine ⟨iff, fun solid => iff.trans (forall₂_congr fun body hides => ?_)⟩
  obtain ⟨rfl, rfl, -⟩ := hides
  exact body.parse_source_eq_iff solid

/-- A body with other edges hides the comment after the section. -/
theorem result_parse_eq_iff_commentTemplate :
    Delimiters.standard.AreSolid ∧
      ¬ ∀ body, (after none [.parse .standard sectionTemplate]).Hides .standard commentTemplate
        body → body.KeepsEdges := by
  have solid : Delimiters.standard.AreSolid := by decide
  refine ⟨solid, fun keeps => ?_⟩
  have same := ((result_parse_eq_iff none none [.parse .standard sectionTemplate] .standard
    commentTemplate).2 solid).mpr keeps
  have fresh : ((empty none).parse .standard commentTemplate).result = _ :=
    result_parse_commentTemplate_fresh
  rw [result_parse_commentTemplate, fresh] at same
  exact literals_ne (Except.ok.inj same)

/-- After the section the comment comes to other nodes and is rendered in another way. -/
theorem result_parse_ne_fresh :
    ((after none [.parse .standard sectionTemplate]).parse .standard commentTemplate).result ≠
        (unbounded.parse .standard commentTemplate).result ∧
      (Render.template .absent .standard commentTemplate .null
          (bareSession (after none [.parse .standard sectionTemplate]))).1 ≠
        (Render.template .absent .standard commentTemplate .null (bareSession unbounded)).1 := by
  rw [result_parse_commentTemplate, result_parse_commentTemplate_fresh,
    render_literal (bareSession (after none [.parse .standard sectionTemplate])) .absent .null
      result_parse_commentTemplate,
    render_literal (bareSession unbounded) .absent .null result_parse_commentTemplate_fresh]
  constructor
  · exact fun same => literals_ne (Except.ok.inj same)
  · exact fun same => absurd (Except.ok.inj same) (by decide)

end Cache

end Stencil
