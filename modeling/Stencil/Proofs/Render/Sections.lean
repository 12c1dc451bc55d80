import Stencil.Proofs.Cache.Account
import Stencil.Proofs.Render.Spared
import Stencil.Proofs.Value.Face

/-!
# Sections are rendered without the cache

Blocks have their bodies wherever they come from a parse, so no body is parsed when it is rendered.
A template without inclusions, whose names lead to nothing that makes use of the cache, is rendered
with a single question to the cache, however often its blocks are rendered
(`Render.sections_spare_cache`).
-/

namespace Stencil

namespace Render

/-- A template is rendered with nothing but one parse through the cache, if its blocks have their
bodies, it has no inclusions, and nothing that its names lead to makes use of the cache. -/
theorem cache_template (partials : Partials) {delimiters : Delimiters} {text : Text}
    {data : Value} {session : Session}
    (spared : ∀ nodes, (session.store.cache.parse delimiters text).result = .ok nodes →
      (∀ node ∈ nodes, node.HasBodies) ∧ Node.inclusions nodes = [] ∧
        session.store.ShunsCache (Node.names nodes) [data]) :
    (template partials delimiters text data session).2.store.cache =
      (session.store.cache.parse delimiters text).cache := by
  obtain ⟨frames, isData, rendered⟩ : ∃ frames, (∀ frame ∈ frames, frame = data) ∧
      template partials delimiters text data =
        withFrames frames (expand (generate depthLimit) partials delimiters text) := by
    cases data with
    | null => exact ⟨[], nofun, rfl⟩
    | _ => exact ⟨[_], by simp, rfl⟩
  rw [rendered]
  let inner : Session := { session with frames }
  change ((parse delimiters text >>= generate depthLimit partials) inner).2.store.cache = _
  have asked : (parse delimiters text inner).1 =
      (session.store.cache.parse delimiters text).result.mapError .malformed := rfl
  cases parsed : (session.store.cache.parse delimiters text).result with
  | error error =>
    rw [parsed] at asked
    rw [bind_of_error (Prod.ext asked rfl : parse delimiters text inner = (.error _, _))]
    rfl
  | ok nodes =>
    rw [parsed] at asked
    rw [bind_of_ok (Prod.ext asked rfl : parse delimiters text inner = (.ok nodes, _))]
    obtain ⟨hasBodies, noInclusions, shuns⟩ := spared nodes parsed
    have shunsHere : (parse delimiters text inner).2.store.ShunsCache (Node.names nodes)
        (parse delimiters text inner).2.frames :=
      (shuns.mono (fun frame isFrame => .root (by simp [isData frame isFrame]))
        (List.Subset.refl _)).congr rfl
    exact (spares_generate depthLimit partials hasBodies noInclusions (List.Subset.refl _)
      shunsHere).cache

end Render

namespace Cache

/-- Parsing through a cache is one question. -/
theorem counts_parse (cache : Cache) (delimiters : Delimiters) (template : Text) :
    (cache.parse delimiters template).cache.hits + (cache.parse delimiters template).cache.misses =
      cache.hits + cache.misses + 1 := by
  have asked := (cache.counts_get (.of delimiters template)).2
  unfold Cache.parse
  split
  · rename_i answered
    rwa [answered] at asked
  · rename_i missed answered
    rw [answered] at asked
    obtain ⟨hits, misses, -⟩ := counts_recordAll missed (Template.parse delimiters template).1
    dsimp only
    split
    · simpa [hits, misses] using asked
    · rename_i nodes _
      obtain ⟨sameHits, sameMisses⟩ := counts_putIfAbsent
        (recordAll missed (Template.parse delimiters template).1).1 (.of delimiters template) nodes
      simpa [sameHits, sameMisses, hits, misses] using asked

end Cache

namespace Render

/-- Sections are rendered without the cache. Every tree that comes of parsing through a cache that
only parses and renderings have filled has the bodies of its blocks. Nodes with their bodies and
without inclusions leave the cache as it was when they are rendered, and come to the same text or
failure whatever the cache holds, unless their names lead to a lambda, to the cache itself, or to a
method that makes use of the cache. So rendering a template of this kind is one question
to the cache, the one for the template itself. -/
theorem sections_spare_cache :
    (∀ capacity calls delimiters template nodes,
      ((Cache.after capacity calls).parse delimiters template).result = .ok nodes →
        ∀ node ∈ nodes, node.HasBodies) ∧
    (∀ depth partials nodes (session : Session), (∀ node ∈ nodes, node.HasBodies) →
      Node.inclusions nodes = [] →
      session.store.ShunsCache (Node.names nodes) session.frames →
        (generate depth partials nodes session).2.store.cache = session.store.cache ∧
        ∀ cache, generate depth partials nodes (session.through cache) =
          ((generate depth partials nodes session).1,
            (generate depth partials nodes session).2.through cache)) ∧
    (∀ capacity calls partials delimiters template data (session : Session),
      (∀ nodes, ((Cache.after capacity calls).parse delimiters template).result = .ok nodes →
        Node.inclusions nodes = [] ∧ session.store.ShunsCache (Node.names nodes) [data]) →
      let before := Cache.after capacity calls
      let after := (Render.template partials delimiters template data
        (session.through before)).2.store.cache
      after = (before.parse delimiters template).cache ∧
        after.hits + after.misses = before.hits + before.misses + 1) := by
  refine ⟨fun capacity calls delimiters template nodes => Cache.hasBodies_of_parse, ?_, ?_⟩
  · intro depth partials nodes session hasBodies noInclusions shuns
    have spares := spares_generate depth partials hasBodies noInclusions (List.Subset.refl _) shuns
    exact ⟨spares.cache, spares.through⟩
  · intro capacity calls partials delimiters template data session spared
    have parsedOnly : (Render.template partials delimiters template data
        (session.through (Cache.after capacity calls))).2.store.cache =
          ((Cache.after capacity calls).parse delimiters template).cache :=
      cache_template partials fun nodes parsed => by
        obtain ⟨noInclusions, shuns⟩ := spared nodes parsed
        exact ⟨Cache.hasBodies_of_parse parsed, noInclusions, shuns.congr rfl⟩
    refine ⟨parsedOnly, ?_⟩
    rw [parsedOnly, Cache.counts_parse]

/-- A session with some frames and an empty store, that goes through a cache. -/
def sessionIn (frames : List Value) (cache : Cache) : Session :=
  { Session.start (.empty cache) ⟨[]⟩ with frames }

/-- A section with a text in it. -/
def starSection : Text :=
  .of "\x7b\x7b#s\x7d\x7d*\x7b\x7b/s\x7d\x7d"

/-- The node that the section is parsed into. -/
def starNodes : List Node :=
  [.block (.of "s") false (.of "*") .standard (some [.literal (.of "*")])]

/-- Two numbers for the section. -/
def pairData : Value :=
  .frozen [(.text (.of "s"), .list [.int 1, .int 2])]

/-- The data holds the list of numbers, and nothing else. -/
theorem holding?_pairData {store : Store} {name : Text} {member : Member}
    (holds : pairData.holding? store name = some member) :
    member = .stored (.list [.int 1, .int 2]) := by
  obtain ⟨value, held, rfl⟩ := Option.map_eq_some_iff.mp holds
  rw [List.lookup_cons] at held
  split at held
  · cases held
    rfl
  · cases held

/-- From the data names lead to the list and to scalars. -/
theorem cases_of_pairData {store : Store} {names : List Text} {value : Value}
    (leads : store.LeadsTo names [pairData] value) :
    value = pairData ∨ value = .list [.int 1, .int 2] ∨ value.kind = .scalar := by
  induction leads with
  | text content => exact .inr (.inr rfl)
  | root isRoot => exact .inl (List.mem_singleton.mp isRoot)
  | @item sequence items value _ hasItems isItem inductionHypothesis =>
    obtain rfl | rfl | isScalar := inductionHypothesis
    · cases hasItems
    · cases hasItems
      obtain rfl | rfl : value = .int 1 ∨ value = .int 2 := by simpa using isItem
      · exact .inr (.inr rfl)
      · exact .inr (.inr rfl)
    · rw [Value.items?_of_scalar isScalar] at hasItems
      cases hasItems
  | held _ _ holds gives inductionHypothesis =>
    obtain rfl | rfl | isScalar := inductionHypothesis
    · cases holding?_pairData holds
      cases gives
      exact .inr (.inl rfl)
    · cases holds
    · rw [Value.holding?_of_scalar isScalar] at holds
      cases holds
  | file _ _ holds _ _ inductionHypothesis =>
    obtain rfl | rfl | isScalar := inductionHypothesis
    · cases holding?_pairData holds
    · cases holds
    · rw [Value.holding?_of_scalar isScalar] at holds
      cases holds

/-- Nothing in the data makes use of the cache. -/
theorem shunsCache_pairData (store : Store) (names : List Text) :
    store.ShunsCache names [pairData] where
  notLambda value leads := by
    obtain rfl | rfl | isScalar := cases_of_pairData leads
    · decide
    · decide
    · simp [isScalar]
  notCache value leads := by
    obtain rfl | rfl | isScalar := cases_of_pairData leads
    · exact nofun
    · exact nofun
    · rintro rfl
      cases isScalar
  notUsed holder name method leads _ holds := by
    obtain rfl | rfl | isScalar := cases_of_pairData leads
    · cases holding?_pairData holds
    · cases holds
    · rw [Value.holding?_of_scalar isScalar] at holds
      cases holds

/-- The section is rendered twice with a single question to the cache. -/
theorem sections_spare_cache_starSection :
    ((Cache.after none []).parse .standard starSection).result = .ok starNodes ∧
      (∀ node ∈ starNodes, node.HasBodies) ∧ Node.inclusions starNodes = [] ∧
      (sessionIn [pairData] .unbounded).store.ShunsCache (Node.names starNodes) [pairData] ∧
      (generate 2 .absent starNodes (sessionIn [pairData] .unbounded)).1 = .ok (.of "**") ∧
      (generate 2 .absent starNodes (sessionIn [pairData] .unbounded)).2.store.cache =
        .unbounded ∧
      let after := (template .absent .standard starSection pairData
        ((sessionIn [] .unbounded).through (Cache.after none []))).2.store.cache
      after.hits + after.misses = 1 := by
  have parsed : ((Cache.after none []).parse .standard starSection).result = .ok starNodes := by
    have nodes : Template.parse .standard starSection =
        ([.bodyParsed .standard (.of "*") [.literal (.of "*")]], .ok starNodes) := by
      cbv
    exact (Cache.parse_empty none .standard starSection).trans (congrArg Prod.snd nodes)
  have noInclusions : Node.inclusions starNodes = [] := rfl
  have hasBodies := sections_spare_cache.1 none [] .standard starSection starNodes parsed
  have rendered := sections_spare_cache.2.1 2 .absent starNodes
    (sessionIn [pairData] .unbounded) hasBodies noInclusions (shunsCache_pairData _ _)
  have asked := sections_spare_cache.2.2 none [] .absent .standard starSection pairData
    (sessionIn [] .unbounded) fun nodes parsedToo => by
      cases parsed.symm.trans parsedToo
      exact ⟨noInclusions, shunsCache_pairData _ _⟩
  exact ⟨parsed, hasBodies, noInclusions, shunsCache_pairData _ _, by rfl, rendered.1, asked.2⟩

/-- The value of a name, shown. -/
def shownNodes (name : String) : List Node :=
  [.interpolation (.of name) true]

/-- A view with an empty template. -/
def emptyView : Value :=
  .object [(.of "template", .computed (.returns (.text []))),
    (.of "render", .computed (.ofView .render))] (.of "<view>") true .thing

/-- The view offers its template, and its rendering. -/
theorem member?_emptyView {store : Store} {name : Text} {member : Member}
    (offers : emptyView.member? store name = some member) :
    member = .computed (.returns (.text [])) ∨ member = .computed (.ofView .render) := by
  have offered : List.lookup name [(.of "template", .computed (.returns (.text []))),
      (.of "render", .computed (.ofView .render))] = some member := by
    simpa [emptyView, Value.member?] using offers
  simp only [List.lookup_cons] at offered
  split at offered
  · exact .inl (Option.some.inj offered).symm
  · split at offered
    · exact .inr (Option.some.inj offered).symm
    · cases offered

/-- Names lead from the cache and the view to no lambda. -/
theorem kind_ne_lambda_of_emptyView {store : Store} {names : List Text} {value : Value}
    (leads : store.LeadsTo names [.cache, emptyView] value) : value.kind ≠ .lambda := by
  have kinds : value = .cache ∨ value = emptyView ∨ value.kind = .scalar := by
    induction leads with
    | text content => exact .inr (.inr rfl)
    | root isRoot =>
      obtain rfl | rfl : _ = Value.cache ∨ _ = emptyView := by simpa using isRoot
      · exact .inl rfl
      · exact .inr (.inl rfl)
    | item _ hasItems isItem inductionHypothesis =>
      obtain rfl | rfl | isScalar := inductionHypothesis
      · cases hasItems
      · cases hasItems
      · rw [Value.items?_of_scalar isScalar] at hasItems
        cases hasItems
    | held _ _ holds gives inductionHypothesis =>
      obtain rfl | rfl | isScalar := inductionHypothesis
      · simp only [Value.holding?, Option.ite_none_right_eq_some] at holds
        exact .inr (.inr (Cache.isScalar_of_given? holds.2 gives))
      · simp only [emptyView, Value.holding?, Option.ite_none_right_eq_some] at holds
        obtain rfl | rfl := member?_emptyView holds.2
        · cases gives
          exact .inr (.inr rfl)
        · cases gives
      · rw [Value.holding?_of_scalar isScalar] at holds
        cases holds
    | file _ _ holds isPlace stores inductionHypothesis =>
      obtain rfl | rfl | isScalar := inductionHypothesis
      · simp only [View.filePlaces, List.mem_cons, List.not_mem_nil, or_false] at isPlace
        obtain rfl | rfl | rfl := isPlace <;> cases stores
      · obtain differs | differs := member?_emptyView stores <;> cases differs
      · rw [Value.holding?_of_scalar isScalar] at holds
        cases holds
  obtain rfl | rfl | isScalar := kinds
  · decide
  · decide
  · simp [isScalar]

/-- The view is rendered with a question to the cache. -/
theorem misses_emptyView :
    (generate 2 .absent (shownNodes "render")
      (sessionIn [emptyView] .unbounded)).2.store.cache.misses = 1 := by
  let asking := sessionIn [emptyView] .unbounded
  let asked := (parse .standard [] asking).2
  have nodes : Template.parse .standard [] = ([], .ok []) := by
    cbv
  have parsed : parse .standard [] asking = (.ok [], asked) :=
    parse_of_absent (Cache.Contains.empty none).find?_eq_none nodes
  have rendered : view (generate 1) emptyView .null .null .null asking = (.ok [], asked) := by
    let source : Partials := .called (.builtIn .refusing)
    have chosen : templateOrOwn emptyView .null asking = (.ok (.text []), asking) := rfl
    have found : partialsOrOwn emptyView .null asking = (.ok source, asking) := rfl
    have expanded : expand (generate 1) source .standard [] asking = (.ok [], asked) :=
      bind_of_ok parsed
    rw [view_eq]
    refine (bind_of_ok chosen).trans ((bind_of_ok found).trans ?_)
    exact congrArg (fun outcome => (outcome.1, { outcome.2 with frames := asking.frames }))
      expanded
  have computed : compute (generate 1) emptyView (.ofView .render) asking =
      (.ok (.text []), asked) :=
    bind_of_ok rendered
  have found : lookup (generate 1) (.of "render") [emptyView] asking =
      (.ok (some emptyView, .text []), asked) := by
    change (compute (generate 1) emptyView (.ofView .render) >>= _) asking = _
    exact bind_of_ok computed
  change (interpolation (generate 1) .absent (.of "render") true asking).2.store.cache.misses = 1
  rw [interpolation_eq, bind_of_get]
  change ((lookup (generate 1) (.of "render") [emptyView] >>= _) asking).2.store.cache.misses = 1
  rw [bind_of_ok found]
  exact Cache.misses_parse_of_absent (Cache.Contains.empty none).find?_eq_none

/-- Without a lambda in reach, what is output can still depend on the cache, if the cache is a frame
itself; and a view that a name asks to render is rendered through the cache. -/
theorem cache_in_reach :
    (∀ name, (∀ node ∈ shownNodes name, node.HasBodies) ∧ Node.inclusions (shownNodes name) = []) ∧
      (∀ store names value, Store.LeadsTo store names [.cache, emptyView] value →
        value.kind ≠ .lambda) ∧
      (generate 1 .absent (shownNodes "hits") (sessionIn [.cache] .unbounded)).1 ≠
        (generate 1 .absent (shownNodes "hits")
          ((sessionIn [.cache] .unbounded).through { Cache.unbounded with hits := 1 })).1 ∧
      (generate 2 .absent (shownNodes "render")
          (sessionIn [emptyView] .unbounded)).2.store.cache.misses ≠ Cache.unbounded.misses := by
  refine ⟨fun name => ⟨?_, rfl⟩, fun store names value => kind_ne_lambda_of_emptyView, ?_, ?_⟩
  · simpa [shownNodes] using .interpolation (.of name) true
  · decide
  · rw [misses_emptyView]
    decide

end Render

end Stencil
