import Stencil.Proofs.Cache.Blank
import Stencil.Proofs.Render.Frames
import Stencil.Proofs.Render.Sections
import Stencil.Proofs.Value.NoLambda

/-!
# Roots that agree on the names of a template

A template that is rendered against a mapping looks its names up in frames that it puts inside this
mapping, and in the mapping itself. So another mapping that holds the same under these names can
stand in its place (`Render.template_eq_of_agree`), whatever else either of them holds: only what is
written over, and what a lambda has rendered, could tell them apart, and there are no lambdas.

`Session.StandsOn` is the state of such a rendering. It is the same for both mappings but for the
outermost frame. Every computation on the way does the same in either, and takes a course in a
region in which no lambda writes (`Render.Replays`).
-/

namespace Stencil

/-! ## The state of a rendering -/

/-- The frames of a session stand on a mapping in whose place another one can stand: it holds the
same under the names that are looked up, which lead to no lambda. All frames are in a region in
which no lambda writes. -/
structure Session.StandsOn (region : Region) (names : List Text) (first second : Value)
    (inner : List Value) (session : Session) : Prop where
  frames : session.frames = inner ++ [first]
  /-- The inner frames were put there for blocks, so they were come by before. -/
  comesBy : ∀ frame ∈ inner, session.store.ComesBy names [first] frame
  isMapping : first.kind = .mapping ∧ second.kind = .mapping
  agree : ∀ name ∈ names,
    first.holding? session.store name = second.holding? session.store name
  noLambda : session.store.LeadsToNoLambda names [first]
  isInside : session.IsInside region
  writesNothing : session.store.WritesNothing region
  /-- A function of a built-in value can answer nothing, and this is parsed through the cache. -/
  isBlank : session.store.cache.IsBlank

namespace Session.StandsOn

variable {region : Region} {names : List Text} {first second : Value} {inner : List Value}
  {session : Session}

variable (stands : session.StandsOn region names first second inner)

include stands

/-- Where the frames stand there is no lambda among the values. -/
theorem notLambda {name : Text} {value : Value} (isNamed : name ∈ names)
    (holds : first.holding? session.store name = some (.stored value)) : value.kind ≠ .lambda :=
  stands.noLambda.notHeld first name value (.root List.mem_cons_self) stands.isMapping.1 isNamed
    holds

/-- Every frame can be come by from the outermost one. -/
theorem comesBy_frame {frame : Value} (isFrame : frame ∈ session.frames) :
    session.store.ComesBy names [first] frame := by
  rw [stands.frames] at isFrame
  rcases List.mem_append.mp isFrame with isInner | isRoot
  · exact stands.comesBy frame isInner
  · exact .leads (.root isRoot)

/-- What can be come by from the outermost frame is in the region. -/
theorem isInside_of_comesBy {value : Value} (comesBy : session.store.ComesBy names [first] value) :
    region value := by
  refine comesBy.isInside stands.isInside.encloses (List.forall_mem_singleton.mpr ?_)
  exact stands.isInside.frames first (by simp [stands.frames])

/-- What could be come by can be come by after a course. -/
theorem comesBy_of_course {deeds : List Deed} {after : Session}
    (course : session.Course region deeds after) {value : Value}
    (comesBy : session.store.ComesBy names [first] value) :
    after.store.ComesBy names [first] value :=
  (stands.noLambda.comesBy_iff course.confined (course.not_wrote stands.writesNothing)).mpr comesBy

/-- The frames stand as they did after a course. -/
theorem course {deeds : List Deed} {after : Session}
    (course : session.Course region deeds after) :
    after.StandsOn region names first second inner where
  frames := course.frames_eq.trans stands.frames
  comesBy frame isInner := stands.comesBy_of_course course (stands.comesBy frame isInner)
  isMapping := stands.isMapping
  agree name isNamed := by
    have notWrote := course.not_wrote stands.writesNothing
    have firstKeeps : first.holding? after.store name = first.holding? session.store name :=
      course.confined.holding?_eq notWrote (Value.ne_cache_of_mapping stands.isMapping.1)
        fun value _ => stands.notLambda isNamed
    have secondKeeps : second.holding? after.store name = second.holding? session.store name :=
      course.confined.holding?_eq notWrote (Value.ne_cache_of_mapping stands.isMapping.2)
        fun value _ holds => stands.notLambda isNamed ((stands.agree name isNamed).trans holds)
    rw [firstKeeps, secondKeeps, stands.agree name isNamed]
  noLambda := stands.noLambda.preserved course.confined (course.not_wrote stands.writesNothing)
  isInside := course.isInside stands.isInside
  writesNothing := stands.writesNothing.congr course.confined.behaviours
  isBlank := course.preserves Cache.invariant_isBlank stands.isBlank

/-- The frames stand as they did after a computation. -/
theorem after {α : Type} {computation : Render α} (runs : Render.OnCourse region computation) :
    (computation session).2.StandsOn region names first second inner := by
  obtain ⟨deeds, course⟩ := runs session stands.isInside
  exact stands.course course

/-- One more frame that can be come by stands on the others. -/
theorem cons {frame : Value} (comesBy : session.store.ComesBy names [first] frame) :
    ({ session with frames := frame :: session.frames } : Session).StandsOn region names first
      second (frame :: inner) where
  frames := congrArg (frame :: ·) stands.frames
  comesBy other isInner := by
    rcases List.mem_cons.mp isInner with rfl | isInner
    · exact comesBy
    · exact stands.comesBy other isInner
  isMapping := stands.isMapping
  agree := stands.agree
  noLambda := stands.noLambda
  isInside := ⟨stands.isInside.encloses,
    List.forall_mem_cons.mpr ⟨stands.isInside_of_comesBy comesBy, stands.isInside.frames⟩⟩
  writesNothing := stands.writesNothing
  isBlank := stands.isBlank

end Session.StandsOn

/-- With a mapping as the only frame the frames stand on it. -/
theorem Session.StandsOn.of_agree {names : List Text} {first second : Value} {session : Session}
    {cache : Cache} (isBlank : cache.IsBlank) (isMapping : first.kind = .mapping)
    (isMappingToo : second.kind = .mapping)
    (agree : ∀ name ∈ names,
      first.holding? session.store name = second.holding? session.store name)
    (noLambda : session.store.HoldsNoLambda names [first]) :
    ({ session.through cache with frames := [first] } : Session).StandsOn
      (session.store.Reaches [first]) names first second [] where
  frames := rfl
  comesBy := nofun
  isMapping := ⟨isMapping, isMappingToo⟩
  agree name isNamed := by
    have keeps {root : Value} (isRootMapping : root.kind = .mapping) :
        root.holding? (session.through cache).store name = root.holding? session.store name :=
      @Value.holding?_of_ne_cache session.store (session.through cache).store root rfl
        (Value.ne_cache_of_mapping isRootMapping) name
    exact (keeps isMapping).trans ((agree name isNamed).trans (keeps isMappingToo).symm)
  noLambda := noLambda.toLeadsToNoLambda.preserved (.of_eq rfl rfl rfl) fun _ => List.not_mem_nil
  isInside := ⟨(session.store.encloses_reaches _).congr rfl rfl,
    List.forall_mem_singleton.mpr (.root List.mem_cons_self)⟩
  writesNothing := noLambda.writesNothing.congr rfl
  isBlank := isBlank

/-! ## Computations that go the same way twice -/

/-- From a session a computation does the same as with other frames, and takes a course in a
region. -/
structure Render.Replays {α : Type} (region : Region) (others : List Value)
    (computation : Render α) (session : Session) : Prop where
  same : SameIn others computation session
  course : ∃ deeds, session.Course region deeds (computation session).2

namespace Render.Replays

variable {α β : Type} {region : Region} {others : List Value} {session : Session}

/-- What ignores the frames goes the same way twice. -/
theorem of_ignores {computation : Render α} (ignores : IgnoresFrames computation)
    (runs : OnCourse region computation) (isInside : session.IsInside region) :
    Replays region others computation session :=
  ⟨ignores session others, runs session isInside⟩

/-- Doing nothing goes the same way twice. -/
theorem of_pure (value : α) : Replays region others (pure value : Render α) session :=
  ⟨rfl, [], .stay⟩

/-- One computation after the other goes the same way twice if both do. -/
theorem bind {first : Render α} {next : α → Render β} (begins : Replays region others first session)
    (isInside : session.IsInside region)
    (continues : ∀ value between deeds, first session = (.ok value, between) →
      session.Course region deeds between → Replays region others (next value) between) :
    Replays region others (first >>= next) session := by
  obtain ⟨deeds, course⟩ := begins.course
  refine ⟨begins.same.bind fun value between ran => ?_,
    course_bind isInside begins.course fun value between deeds ran begun _ =>
      (continues value between deeds ran begun).course⟩
  rw [ran] at course
  exact (continues value between deeds ran course).same

/-- A session may be looked at for what is the same in other frames. -/
theorem get {next : Session → Render α}
    (same : next { session with frames := others } = next session)
    (continues : Replays region others (next session) session) :
    Replays region others (MonadState.get >>= next) session :=
  ⟨.get same continues.same, continues.course⟩

/-- What goes the same way twice in one more frame does so outside of it. -/
theorem withFrame {inner : Render α} {frame : Value} (frameInside : region frame)
    (replays : Replays region (frame :: others) inner
      { session with frames := frame :: session.frames }) :
    Replays region others (withFrame frame inner) session :=
  ⟨.withFrame replays.same, replays.course.imp fun _ course => .within frameInside course⟩

/-- Texts that are joined go the same way twice if each of them does wherever something holds that
goes on to hold. -/
theorem joinEach {holds : Session → Prop} {render : α → Render Text} {items : List α}
    (begins : holds session) (isInside : session.IsInside region)
    (goesOn : ∀ point deeds after, holds point → point.Course region deeds after → holds after)
    (each : ∀ item ∈ items, ∀ point, holds point → Replays region others (render item) point) :
    Replays region others (joinEach render items) session := by
  induction items generalizing session with
  | nil => exact .of_pure []
  | cons item items inductionHypothesis =>
    rw [joinEach_cons]
    refine (each item List.mem_cons_self session begins).bind isInside
      fun text between deeds _ course => ?_
    have betweenInside := course.isInside isInside
    refine (inductionHypothesis (goesOn session deeds between begins course) betweenInside
      fun other isItem => each other (List.mem_cons_of_mem item isItem)).bind betweenInside
        fun _ _ _ _ _ => .of_pure _

end Render.Replays

/-! ## Looking names up -/

/-- What is found in frames is found in the inner ones, or else in the outermost one. -/
theorem Context.find?_append_singleton (store : Store) (name : Text) (inner : List Value)
    (root : Value) :
    find? store name (inner ++ [root]) = (find? store name inner).or
      ((root.holding? store name).map fun member => (inner.length, root, member)) := by
  induction inner with
  | nil =>
    simp only [List.nil_append, find?]
    cases root.holding? store name <;> rfl
  | cons frame inner inductionHypothesis =>
    simp only [List.cons_append, find?, inductionHypothesis]
    cases frame.holding? store name with
    | some member => rfl
    | none =>
      cases find? store name inner with
      | some found => rfl
      | none => cases root.holding? store name <;> rfl

namespace Render

section Lookup

variable {region : Region} {names : List Text} {first second : Value} {inner : List Value}
  {session : Session} {depth : Nat} {name : Text}

/-- A lookup takes a course in the region of the frames. -/
theorem course_lookup (stands : session.StandsOn region names first second inner) (depth : Nat)
    (name : Text) :
    ∃ deeds, session.Course region deeds
      (lookup (generate depth) name session.frames session).2 :=
  onCourse_lookup (onCourse_generate depth) name
    (fun frame isFrame _ => stands.isInside.frames frame isFrame) session stands.isInside

/-- What a lookup finds can be come by. -/
theorem comesBy_of_lookup {frame : Option Value} {value : Value} {between : Session}
    (stands : session.StandsOn region names first second inner) (isNamed : name ∈ names)
    (ran : lookup (generate depth) name session.frames session = (.ok (frame, value), between)) :
    between.StandsOn region names first second inner ∧
      between.store.ComesBy names [first] value := by
  have found : session.store.ComesBy names [first] value := by
    obtain rfl | ⟨holder, isFrame, -, ⟨-, holds⟩ | ⟨method, holds, computed⟩⟩ :=
      cases_of_lookup ran
    · exact .scalar rfl
    · exact .leads (.held ((stands.comesBy_frame isFrame).leadsTo holds) isNamed holds rfl)
    · have leads := (stands.comesBy_frame isFrame).leadsTo holds
      obtain leadsOn | isFunction | ⟨-, rfl⟩ := leadsTo_of_compute leads isNamed holds computed
      · exact .leads leadsOn
      · exact .builtIn _ isFunction
      · exact .scalar rfl
  obtain ⟨deeds, course⟩ := course_lookup stands depth name
  rw [ran] at course
  exact ⟨stands.course course, stands.comesBy_of_course course found⟩

/-- A lambda that a lookup finds is not held by a mapping. -/
theorem not_mapping_of_lookup {frame : Option Value} {value : Value} {between : Session}
    (stands : session.StandsOn region names first second inner) (isNamed : name ∈ names)
    (ran : lookup (generate depth) name session.frames session = (.ok (frame, value), between))
    (isLambda : value.kind = .lambda) (address : Nat) : frame ≠ some (.mapping address) := by
  rintro rfl
  obtain ⟨isFrame, held⟩ := held_of_lookup ran isLambda
  have standsAfter := (comesBy_of_lookup stands isNamed ran).1
  have holds : (Value.mapping address).holding? between.store name = some (.stored value) :=
    Option.map_eq_some_iff.mpr ⟨value, held, rfl⟩
  rw [stands.frames, ← standsAfter.frames] at isFrame
  exact standsAfter.noLambda.notHeld _ name value
    ((standsAfter.comesBy_frame isFrame).leadsTo holds) rfl isNamed holds isLambda

/-- What is done with what a lookup finds is the same for both mappings, unless it is done to the
frame that holds a lambda. -/
theorem replays_lookup {α : Type} {next : Option Value × Value → Render α}
    (stands : session.StandsOn region names first second inner) (isNamed : name ∈ names)
    (blind : ∀ frame other value, value.kind ≠ .lambda → next (frame, value) = next (other, value))
    (continues : ∀ frame value between,
      lookup (generate depth) name session.frames session = (.ok (frame, value), between) →
        Replays region (inner ++ [second]) (next (frame, value)) between) :
    Replays region (inner ++ [second])
      (MonadState.get >>= fun current => lookup (generate depth) name current.frames >>= next)
      session := by
  refine ⟨?_, ?_⟩
  swap
  · rw [bind_of_get]
    exact course_bind stands.isInside (course_lookup stands depth name)
      fun found between _ ran _ _ => (continues found.1 found.2 between ran).course
  unfold SameIn
  rw [bind_of_get, bind_of_get]
  rw [stands.frames] at continues ⊢
  have ownPlace := Context.find?_append_singleton session.store name inner first
  have otherPlace := Context.find?_append_singleton session.store name inner second
  rw [← stands.agree name isNamed] at otherPlace
  let other : Session := { session with frames := inner ++ [second] }
  cases found : Context.find? session.store name inner with
  | some place =>
    -- An inner frame holds the name: both mappings are too far outside to matter.
    obtain ⟨distance, frame, member⟩ := place
    rw [found] at ownPlace otherPlace
    have ran := @lookup_of_find? (generate depth) name _ session _ _ _ ownPlace
    have otherRan := @lookup_of_find? (generate depth) name _ other _ _ _ otherPlace
    rw [bind_congr_first ran, bind_congr_first otherRan]
    refine SameIn.bind ((ignores_memberValue _ frame member).bind
      (fun _ => ignores_pure _) session _) fun answer between ranMember => ?_
    exact (continues answer.1 answer.2 between (ran.trans ranMember)).same
  | none =>
    rw [found] at ownPlace otherPlace
    cases held : first.holding? session.store name with
    | some member =>
      obtain ⟨value, rfl⟩ := Value.exists_stored_of_mapping stands.isMapping.1 held
      rw [held] at ownPlace otherPlace
      have ran : lookup (generate depth) name _ session = (.ok (some first, value), session) :=
        lookup_of_find? ownPlace
      have otherRan : lookup (generate depth) name _ other = (.ok (some second, value), other) :=
        @lookup_of_find? (generate depth) name _ other _ _ _ otherPlace
      rw [bind_of_ok ran, bind_of_ok otherRan,
        blind (some second) (some first) value (stands.notLambda isNamed held)]
      exact (continues (some first) value session ran).same
    | none =>
      rw [held] at ownPlace otherPlace
      have ran := @lookup_of_find?_eq_none (generate depth) name _ session ownPlace
      have otherRan := @lookup_of_find?_eq_none (generate depth) name _ other otherPlace
      rw [bind_of_ok ran, bind_of_ok otherRan, blind _ _ (.text []) nofun]
      exact (continues _ _ session ran).same

end Lookup

/-! ## Functions of built-in values -/

/-- A function of a built-in value that is given a single thing answers nothing, or fails. -/
theorem eq_null_of_callBuiltIn {raw : Text} {function : BuiltIn} {answer : Value}
    {session after : Session}
    (ran : callBuiltIn 1 raw function session = (.ok answer, after)) : answer = .null := by
  cases function with
  | refusing => cases ran
  | ofSet function address =>
    cases function <;> first | (cases ran; rfl) | cases ran

/-- A function of a built-in value that is given two things fails. -/
theorem not_ok_of_callBuiltIn {raw : Text} {function : BuiltIn} {answer : Value}
    {session after : Session} : callBuiltIn 2 raw function session ≠ (.ok answer, after) := by
  intro ran
  cases function with
  | refusing => cases ran
  | ofSet function address => cases function <;> cases ran

section Nodes

variable {region : Region} {names : List Text} {first second : Value} {inner : List Value}
  {session : Session} {depth : Nat} {partials : Partials} {name : Text}

/-- Rendering an empty text goes the same way for both mappings. -/
theorem replays_expand_nil (stands : session.StandsOn region names first second inner)
    (delimiters : Delimiters) :
    Replays region (inner ++ [second]) (expand (generate depth) partials delimiters [])
      session := by
  refine (Replays.of_ignores (ignores_parse delimiters []) (onCourse_parse delimiters [])
    stands.isInside).bind stands.isInside fun nodes between _ ran _ => ?_
  cases (stands.isBlank.parse_eq_nil delimiters).symm.trans (result_parse_of_ok ran)
  cases depth with
  | zero => exact ⟨rfl, [], .stay⟩
  | succ depth => exact .of_pure []

/-- A call of a function of a built-in value goes the same way for both mappings. -/
theorem replays_callBuiltIn (stands : session.StandsOn region names first second inner)
    (given : Nat) (raw : Text) (function : BuiltIn) :
    Replays region (inner ++ [second]) (callBuiltIn given raw function) session := by
  have functionInside : region (.builtIn function) :=
    stands.isInside.encloses.leaf _ (.builtIn function)
  exact .of_ignores (ignores_callBuiltIn given raw function)
    (onCourse_callAlone given raw functionInside) stands.isInside

/-- Displaying a value goes the same way for both mappings. -/
theorem replays_displayed (stands : session.StandsOn region names first second inner)
    (value : Value) : Replays region (inner ++ [second]) (displayed value) session :=
  .of_ignores (ignores_displayed value) ((onCourse region).displayed value) stands.isInside

/-- Settling a function of a built-in value goes the same way for both mappings, if it is not held
by a mapping. -/
theorem replays_settle {frame : Option Value} {function : BuiltIn}
    (stands : session.StandsOn region names first second inner)
    (notHeld : ∀ address, frame ≠ some (.mapping address)) :
    Replays region (inner ++ [second])
      (settle (generate depth) partials frame name (.builtIn function)) session := by
  have evaluates : Replays region (inner ++ [second])
      (evaluation (generate depth) partials (.builtIn function)) session := by
    refine (replays_callBuiltIn stands 1 [] function).bind stands.isInside
      fun answer between _ ran course => ?_
    have standsThere := stands.course course
    obtain rfl := eq_null_of_callBuiltIn ran
    refine (replays_displayed standsThere .null).bind standsThere.isInside
      fun text after _ shown _ => ?_
    cases shown
    exact replays_expand_nil standsThere .standard
  refine evaluates.bind stands.isInside fun text between _ _ _ => ?_
  unfold remember
  split
  · exact absurd rfl (notHeld _)
  · exact .of_pure text

/-- Rendering a named value goes the same way for both mappings. -/
theorem replays_interpolation (escaped : Bool)
    (stands : session.StandsOn region names first second inner) (isNamed : name ∈ names) :
    Replays region (inner ++ [second]) (interpolation (generate depth) partials name escaped)
      session := by
  rw [interpolation_eq]
  refine replays_lookup stands isNamed (fun frame other value notLambda => ?_)
    fun frame value between ran => ?_
  · simp [notLambda]
  · obtain ⟨standsThere, comesBy⟩ := comesBy_of_lookup stands isNamed ran
    dsimp only
    split
    · rename_i isLambda
      obtain ⟨function, rfl⟩ := standsThere.noLambda.exists_builtIn comesBy isLambda
      have notMapping := not_mapping_of_lookup stands isNamed ran isLambda
      exact (replays_settle standsThere notMapping).bind standsThere.isInside
        fun _ _ _ _ _ => .of_pure _
    · exact (replays_displayed standsThere value).bind standsThere.isInside
        fun _ _ _ _ _ => .of_pure _

/-- Rendering a block goes the same way for both mappings if rendering its body does. -/
theorem replays_block (inverted : Bool) (source : Text) (delimiters : Delimiters)
    {body : List Node} (stands : session.StandsOn region names first second inner)
    (isNamed : name ∈ names)
    (inside : ∀ (inner : List Value) (point : Session),
      point.StandsOn region names first second inner →
        Replays region (inner ++ [second]) (generate depth partials body) point) :
    Replays region (inner ++ [second])
      (block (generate depth) partials name inverted source delimiters (some body)) session := by
  unfold block
  refine replays_lookup stands isNamed (fun _ _ _ _ => rfl) fun frame value between ran => ?_
  obtain ⟨standsThere, comesBy⟩ := comesBy_of_lookup stands isNamed ran
  have within {item : Value} {point : Session}
      (standsHere : point.StandsOn region names first second inner)
      (comesByItem : point.store.ComesBy names [first] item) :
      Replays region (inner ++ [second]) (withFrame item (generate depth partials body)) point :=
    .withFrame (standsHere.isInside_of_comesBy comesByItem)
      (inside (item :: inner) _ (standsHere.cons comesByItem))
  dsimp only
  refine .get rfl ?_
  split
  · split
    · exact .of_pure []
    · exact inside inner between standsThere
  · cases hasItems : value.items? with
    | some items =>
      refine @Replays.joinEach _ _ _ _ (fun point =>
        point.StandsOn region names first second inner ∧
          ∀ item ∈ items, point.store.ComesBy names [first] item) _ _
        ⟨standsThere, fun item isItem => comesBy.item hasItems isItem⟩ standsThere.isInside ?_ ?_
      · rintro point deeds after ⟨standsHere, comesByItems⟩ course
        exact ⟨standsHere.course course, fun item isItem =>
          standsHere.comesBy_of_course course (comesByItems item isItem)⟩
      · rintro item isItem point ⟨standsHere, comesByItems⟩
        exact within standsHere (comesByItems item isItem)
    | none =>
      dsimp only
      split
      · rename_i isLambda
        obtain ⟨function, rfl⟩ := standsThere.noLambda.exists_builtIn comesBy isLambda
        exact (replays_callBuiltIn standsThere 2 source function).bind standsThere.isInside
          fun answer after _ called _ => absurd called not_ok_of_callBuiltIn
      · split
        · exact within standsThere comesBy
        · exact .of_pure []

/-- Rendering a node whose blocks have their bodies and that is no inclusion goes the same way for
both mappings. -/
theorem replays_node {node : Node} (hasBodies : node.HasBodies)
    (noInclusion : Node.inclusions [node] = []) (named : Node.names [node] ⊆ names)
    (stands : session.StandsOn region names first second inner)
    (inside : ∀ (body : List Node) (inner : List Value) (point : Session),
      (∀ node ∈ body, node.HasBodies) → Node.inclusions body = [] → Node.names body ⊆ names →
        point.StandsOn region names first second inner →
          Replays region (inner ++ [second]) (generate depth partials body) point) :
    Replays region (inner ++ [second]) (Render.node (generate depth) partials node) session := by
  cases hasBodies with
  | literal text => exact .of_pure text
  | interpolation name escaped =>
    exact replays_interpolation escaped stands (named (by simp [Node.names, Node.gather]))
  | @block body name inverted source delimiters bodies =>
    simp only [Node.inclusions, Node.names, Node.gatherAll_cons, Node.gather_block,
      Node.gatherAll_nil, List.append_nil, List.append_subset] at noInclusion named
    exact replays_block inverted source delimiters stands (named.2 List.mem_cons_self)
      fun inner point => inside body inner point bodies noInclusion named.1
  | inclusion name indent => simp [Node.inclusions, Node.gather] at noInclusion
  | foreign value => exact ⟨rfl, [], .stay⟩

end Nodes

/-- Nodes whose blocks have their bodies, without inclusions, are rendered in the same way for two
mappings that agree on their names. -/
theorem replays_generate (depth : Nat) (partials : Partials) {nodes : List Node} {region : Region}
    {names : List Text} {first second : Value} {inner : List Value} {session : Session}
    (hasBodies : ∀ node ∈ nodes, node.HasBodies) (noInclusions : Node.inclusions nodes = [])
    (named : Node.names nodes ⊆ names)
    (stands : session.StandsOn region names first second inner) :
    Replays region (inner ++ [second]) (generate depth partials nodes) session := by
  induction depth generalizing nodes inner session with
  | zero => exact ⟨rfl, [], .stay⟩
  | succ depth inductionHypothesis =>
    refine Replays.joinEach stands stands.isInside
      (fun point deeds after standsHere course => standsHere.course course)
      fun node isNode point standsHere => ?_
    have alone {α : Type} (own : Node → List α) :
        Node.gatherAll own [node] ⊆ Node.gatherAll own nodes := by
      simpa using Node.gather_subset own isNode
    exact replays_node (hasBodies node isNode) (List.subset_nil.mp (noInclusions ▸ alone _))
      (List.Subset.trans (alone _) named) standsHere
      fun body inner point bodies noInclusion => inductionHypothesis bodies noInclusion

/-- A mapping as data is the only frame. -/
theorem template_of_mapping {data : Value} (isMapping : data.kind = .mapping)
    (partials : Partials) (delimiters : Delimiters) (text : Text) :
    template partials delimiters text data =
      withFrames [data] (expand (generate depthLimit) partials delimiters text) := by
  cases data <;> first | rfl | cases isMapping

/-- What a template without inclusions is rendered to depends on nothing but the names that it uses.
Two mappings that hold the same under each of these names, or both hold nothing, are rendered to the
same text, or with the same failure, and leave the same session behind, if the names lead to no
lambda. So what else they hold never matters, not even whether they hold themselves. -/
theorem template_eq_of_agree (capacity : Option Nat) (calls : List Cache.Call)
    (partials : Partials) (delimiters : Delimiters) (text : Text) (session : Session)
    {first second : Value} (isMapping : first.kind = .mapping)
    (isMappingToo : second.kind = .mapping)
    (agree : ∀ nodes,
      ((Cache.after capacity calls).parse delimiters text).result = .ok nodes →
        Node.inclusions nodes = [] ∧
        (∀ name ∈ Node.names nodes,
          first.holding? session.store name = second.holding? session.store name) ∧
        session.store.HoldsNoLambda (Node.names nodes) [first]) :
    template partials delimiters text first (session.through (Cache.after capacity calls)) =
      template partials delimiters text second (session.through (Cache.after capacity calls)) := by
  let cache := Cache.after capacity calls
  let begun : Session := { session.through cache with frames := [first] }
  have same : SameIn [second] (expand (generate depthLimit) partials delimiters text) begun := by
    refine (ignores_parse delimiters text begun _).bind fun nodes between ran => ?_
    have parsed : (cache.parse delimiters text).result = .ok nodes :=
      result_parse_of_ok ran
    obtain ⟨noInclusions, agree, noLambda⟩ := agree nodes parsed
    have stands : begun.StandsOn (session.store.Reaches [first]) (Node.names nodes) first
        second [] :=
      .of_agree (Cache.isBlank_after capacity calls) isMapping isMappingToo agree noLambda
    have standsThere := stands.after (onCourse_parse delimiters text)
    rw [ran] at standsThere
    exact (replays_generate depthLimit partials (Cache.hasBodies_of_parse parsed) noInclusions
      (List.Subset.refl _) standsThere).same
  rw [template_of_mapping isMapping, template_of_mapping isMappingToo]
  exact (congrArg (fun run : Except Failure Text × Session =>
    (run.1, ({ run.2 with frames := session.frames } : Session))) same).symm

/-- A section with a text in it, and with a name that is looked up outside of it. -/
def outwardSection : Text :=
  .of "\x7b\x7b#s\x7d\x7d*\x7b\x7bt\x7d\x7d\x7b\x7b/s\x7d\x7d"

/-- The nodes that the section is parsed into. -/
def outwardNodes : List Node :=
  [.block (.of "s") false (.of "*\x7b\x7bt\x7d\x7d") .standard
    (some [.literal (.of "*"), .interpolation (.of "t") true])]

/-- Two numbers for the section, and a mapping that it does not use. -/
def pairDataAndMore : Value :=
  .frozen [(.text (.of "u"), .frozen []), (.text (.of "s"), .list [.int 1, .int 2])]

/-- From the data one comes to the list and to leaves. -/
theorem cases_of_reaches_pairData {store : Store} {value : Value}
    (reached : store.Reaches [pairData] value) :
    value = pairData ∨ value = .list [.int 1, .int 2] ∨ value.IsLeaf := by
  induction reached with
  | leaf isLeaf => exact .inr (.inr isLeaf)
  | root isRoot => exact .inl (List.mem_singleton.mp isRoot)
  | @step holder value _ offers inductionHypothesis =>
    obtain rfl | rfl | isLeaf := inductionHypothesis
    · cases offers with
      | item hasItems => cases hasItems
      | held holds =>
        cases holding?_pairData holds
        exact .inr (.inl rfl)
      | stored stores => cases stores
      | answer answers => cases answers
    · cases offers with
      | item hasItems isItem =>
        cases hasItems
        obtain rfl | rfl : value = .int 1 ∨ value = .int 2 := by simpa using isItem
        · exact .inr (.inr (.scalar rfl))
        · exact .inr (.inr (.scalar rfl))
      | held holds => cases holds
      | stored stores => cases stores
      | answer answers => cases answers
    · exact absurd offers (Store.not_offers_of_isLeaf isLeaf)

/-- There is no lambda in the data for the section. -/
theorem holdsNoLambda_pairData (store : Store) (names : List Text) :
    store.HoldsNoLambda names [pairData] where
  isBuiltIn value leads isLambda := by
    obtain rfl | rfl | isScalar := cases_of_pairData leads
    · cases isLambda
    · cases isLambda
    · rw [isScalar] at isLambda
      cases isLambda
  notHeld holder name value leads isMapping _ holds := by
    obtain rfl | rfl | isScalar := cases_of_pairData leads
    · cases holding?_pairData holds
      decide
    · cases isMapping
    · rw [isScalar] at isMapping
      cases isMapping
  writesNothing address place value reached := by
    obtain differs | differs | isLeaf := cases_of_reaches_pairData reached
    · cases differs
    · cases differs
    · cases isLeaf with
      | scalar isScalar => cases isScalar

/-- The section is rendered to the same with the other mapping and without. -/
theorem template_eq_of_agree_outwardSection :
    ((Cache.after none []).parse .standard outwardSection).result = .ok outwardNodes ∧
      template .absent .standard outwardSection pairData
          ((sessionIn [] .unbounded).through (Cache.after none [])) =
        template .absent .standard outwardSection pairDataAndMore
          ((sessionIn [] .unbounded).through (Cache.after none [])) := by
  have parsed : ((Cache.after none []).parse .standard outwardSection).result =
      .ok outwardNodes := by
    have nodes : Template.parse .standard outwardSection =
        ([.bodyParsed .standard (.of "*\x7b\x7bt\x7d\x7d")
          [.literal (.of "*"), .interpolation (.of "t") true]], .ok outwardNodes) := by
      cbv
    exact (Cache.parse_empty none .standard outwardSection).trans (congrArg Prod.snd nodes)
  refine ⟨parsed, template_eq_of_agree none [] .absent .standard outwardSection
    (sessionIn [] .unbounded) rfl rfl fun nodes parsedToo => ?_⟩
  cases parsed.symm.trans parsedToo
  refine ⟨rfl, fun name isNamed => ?_, holdsNoLambda_pairData _ _⟩
  have isEither : name ∈ [.of "t", .of "s"] := isNamed
  obtain rfl | rfl : name = .of "t" ∨ name = .of "s" := by simpa using isEither
  · rfl
  · rfl

end Render

end Stencil
