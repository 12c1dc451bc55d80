import Stencil.Proofs.Cache.Bodies
import Stencil.Proofs.Render.Outcome
import Stencil.Proofs.Value.Lead

/-!
# Rendering that spares the cache

A computation spares the cache in a session if it does the same whatever the cache holds, and leaves
the cache as it was (`Render.Spares`). Reading files does, and asking objects other than the cache
for what they have. Where names lead to nothing that makes use of the cache, looking them up does
(`Render.spares_lookup`), and so does rendering nodes that have no other names, no inclusions and no
blocks without their bodies (`Render.spares_generate`).
-/

namespace Stencil

namespace Render

/-! ## Computations in general -/

variable {α β : Type}

/-- A computation does the same whatever the cache holds, and leaves the cache, the mappings and
the frames as they were. -/
structure Spares (computation : Render α) (session : Session) : Prop where
  through : ∀ cache, computation (session.through cache) =
    ((computation session).1, (computation session).2.through cache)
  mappings : (computation session).2.store.mappings = session.store.mappings
  frames : (computation session).2.frames = session.frames

/-- What does the same whatever the cache holds leaves the cache as it was. -/
theorem Spares.cache {computation : Render α} {session : Session}
    (spares : Spares computation session) :
    (computation session).2.store.cache = session.store.cache :=
  congrArg (fun run => run.2.store.cache) (spares.through session.store.cache)

section Computations

variable {session : Session}

/-- Doing nothing spares the cache. -/
theorem spares_pure (value : α) : Spares (pure value) session :=
  ⟨fun _ => rfl, rfl, rfl⟩

/-- Failing spares the cache. -/
theorem spares_throw (failure : Failure) : Spares (throw failure : Render α) session :=
  ⟨fun _ => rfl, rfl, rfl⟩

/-- Adding a log line spares the cache. -/
theorem spares_note (event : LogEvent) : Spares (note event) session :=
  ⟨fun _ => rfl, rfl, rfl⟩

/-- A session may be looked at for what does not depend on the cache. -/
theorem Spares.get {next : Session → Render α}
    (same : ∀ cache, next (session.through cache) (session.through cache) =
      next session (session.through cache))
    (spares : Spares (next session) session) : Spares (MonadState.get >>= next) session where
  through cache := by
    rw [bind_of_get, bind_of_get, same]
    exact spares.through cache
  mappings := by
    rw [bind_of_get]
    exact spares.mappings
  frames := by
    rw [bind_of_get]
    exact spares.frames

/-- One computation after the other spares the cache if both do. -/
theorem Spares.bind {first : Render α} {next : α → Render β} (begins : Spares first session)
    (continues : ∀ value between, first session = (.ok value, between) →
      Spares (next value) between) : Spares (first >>= next) session := by
  have through := begins.through
  have mappings := begins.mappings
  have frames := begins.frames
  cases ran : first session with
  | mk result between =>
    rw [ran] at through mappings frames
    cases result with
    | error failure =>
      refine ⟨fun cache => ?_, ?_, ?_⟩
      · rw [bind_of_error ran, bind_of_error (through cache)]
      · rwa [bind_of_error ran]
      · rwa [bind_of_error ran]
    | ok value =>
      have further := continues value between ran
      refine ⟨fun cache => ?_, ?_, ?_⟩
      · rw [bind_of_ok ran, bind_of_ok (through cache)]
        exact further.through cache
      · rw [bind_of_ok ran]
        exact further.mappings.trans mappings
      · rw [bind_of_ok ran]
        exact further.frames.trans frames

/-- A computation with one more frame spares the cache if it does in these frames. -/
theorem Spares.withFrame {inner : Render α} {frame : Value}
    (spares : Spares inner { session with frames := frame :: session.frames }) :
    Spares (withFrame frame inner) session where
  through cache := congrArg
    (fun run : Except Failure α × Session =>
      (run.1, ({ run.2 with frames := run.2.frames.tail } : Session))) (spares.through cache)
  mappings := spares.mappings
  frames := congrArg List.tail spares.frames

/-- Texts that are joined spare the cache if each of them does wherever the mappings and the frames
are these. -/
theorem spares_joinEach {render : α → Render Text} {items : List α}
    (each : ∀ item ∈ items, ∀ point : Session, point.store.mappings = session.store.mappings →
      point.frames = session.frames → Spares (render item) point) :
    Spares (joinEach render items) session := by
  induction items generalizing session with
  | nil => exact spares_pure []
  | cons item items inductionHypothesis =>
    rw [joinEach_cons]
    have first := each item List.mem_cons_self session rfl rfl
    refine first.bind fun text between ran => ?_
    have sameMappings : between.store.mappings = session.store.mappings := by
      simpa [ran] using first.mappings
    have sameFrames : between.frames = session.frames := by
      simpa [ran] using first.frames
    refine (inductionHypothesis fun other isItem point mappings frames => ?_).bind
      fun _ _ _ => spares_pure _
    exact each other (List.mem_cons_of_mem item isItem) point (mappings.trans sameMappings)
      (frames.trans sameFrames)

/-- Displaying a value spares the cache. -/
theorem spares_displayed (value : Value) : Spares (displayed value) session := by
  refine Spares.get (fun cache => ?_) (spares_pure _)
  rw [Session.through, value.display_of_cache cache]

/-! ## Calls and files -/

/-- Calling what is no lambda spares the cache. -/
theorem spares_call {value : Value} (notLambda : value.kind ≠ .lambda) (given : Nat) (raw : Text)
    (callback : Callback) : Spares (call value given raw callback) session := by
  cases value with
  | lambda address => exact absurd rfl notLambda
  | builtIn function => exact absurd rfl notLambda
  | object members shown truth role =>
    cases role with
    | callable => exact absurd rfl notLambda
    | thing => exact spares_throw _
    | maker =>
      cases given with
      | zero => exact spares_pure _
      | succ given => exact spares_throw _
  | _ => exact spares_throw _

/-- Reading a file spares the cache. -/
theorem spares_fileText (path : Path) : Spares (View.fileText path) session := by
  unfold View.fileText
  refine Spares.get (fun _ => rfl) ?_
  split
  · exact spares_pure _
  · exact (spares_note _).bind fun _ _ _ => spares_pure _
  · exact spares_throw _

section View

variable {view : Value} (notCache : view ≠ .cache)

include notCache

/-- What an object is asked for is what it stores, or a function, or it is lacking; this does not
depend on the session. -/
theorem ownMember_cases (store : Store) (name : Text) :
    (∃ value, ownMember view name = pure value ∧ (IsOwn value ∨
      view.member? store name = some (.stored value))) ∨ ownMember view name = throw .lacking := by
  have asked (session : Session) :=
    @Value.member?_of_ne_cache store session.store view notCache name
  have ran (session : Session) : ownMember view name session = _ := bind_of_get
  simp only [asked] at ran
  cases offered : view.member? store name with
  | none =>
    simp only [offered] at ran
    exact .inr (funext ran)
  | some member =>
    simp only [offered] at ran
    cases member with
    | stored value => exact .inl ⟨value, funext ran, .inr rfl⟩
    | computed method => exact .inl ⟨_, funext ran, .inl .function⟩

/-- Asking an object for what it has spares the cache. -/
theorem spares_ownMember (name : Text) : Spares (ownMember view name) session := by
  obtain ⟨value, answers, -⟩ | lacks := ownMember_cases notCache session.store name
  · rw [answers]
    exact spares_pure value
  · rw [lacks]
    exact spares_throw _

/-- Asking a view for a text spares the cache. -/
theorem spares_storedText (name : String) : Spares (View.storedText view name) session := by
  unfold View.storedText
  refine (spares_ownMember notCache _).bind fun value _ _ => ?_
  split
  · exact spares_pure _
  · exact spares_throw _

/-- Calling a method of a view spares the cache if calling its own one does, and if no lambda stands
in its place. -/
theorem spares_callMethod (name : String) {own : ViewMethod → Render Value}
    (owns : ∀ method, Spares (own method) session)
    (notLambda : ∀ value, view.member? session.store (.of name) = some (.stored value) →
      value.kind ≠ .lambda) :
    Spares (View.callMethod view name own) session := by
  unfold View.callMethod
  refine Spares.get (fun cache => ?_) ?_
  · rw [Value.member?_of_ne_cache notCache]
  · split
    · exact spares_pure _
    · exact spares_throw _
    · exact spares_ownMember notCache _
    · exact owns _
    · rename_i value stores
      exact spares_call (notLambda value stores) 0 [] _
    · exact spares_throw _

section File

variable (plain : ∀ place ∈ View.filePlaces, ∀ value,
  view.member? session.store (.of place) = some (.stored value) →
    value.kind ≠ .lambda ∧ value ≠ .cache)

include plain

/-- Finding the file name of a view spares the cache, if what it stores about its file is neither
the cache nor a lambda. -/
theorem spares_fileName (className : Text) : Spares (View.fileName view className) session := by
  have notCacheOf {value : Value} {place : String} (isPlace : place ∈ View.filePlaces)
      (known : IsOwn value ∨
        view.member? session.store (.of place) = some (.stored value)) : value ≠ .cache := by
    obtain isOwn | stores := known
    · rintro rfl
      cases isOwn
    · exact (plain place isPlace value stores).2
  unfold View.fileName View.stored
  obtain ⟨file, isFile, knownFile⟩ | lacks :=
    ownMember_cases notCache session.store (.of "template_file")
  · have fileNotCache := notCacheOf (by simp [View.filePlaces]) knownFile
    rw [isFile, pure_bind]
    obtain ⟨space, isSpace, knownSpace⟩ | lacks :=
      ownMember_cases notCache session.store (.of "template_namespace")
    · have spaceNotCache := notCacheOf (by simp [View.filePlaces]) knownSpace
      rw [isSpace]
      simp only [pure_bind]
      refine Spares.get (fun cache => ?_) ?_
      · dsimp only [Session.through]
        rw [Value.truth_of_ne_cache fileNotCache, Value.truth_of_ne_cache spaceNotCache]
      · have completes (name : Text) : Spares (do
            let extension ← View.storedText view "template_extension"
            return Value.text (View.classPath name ++ .of "." ++ extension)) session :=
          (spares_storedText notCache _).bind fun _ _ _ => spares_pure _
        split
        · exact spares_pure _
        · split
          · split
            · exact completes _
            · exact spares_throw _
          · exact completes _
    · rw [lacks]
      refine Spares.get (fun cache => ?_) ?_
      · dsimp only [Session.through]
        rw [Value.truth_of_ne_cache fileNotCache]
        split <;> rfl
      · dsimp only
        split
        · exact spares_pure _
        · exact (spares_throw _).bind nofun
  · rw [lacks]
    exact (spares_throw _).bind nofun

/-- Finding the template of a view spares the cache, if what it stores about its file is neither
the cache nor a lambda. -/
theorem spares_viewTemplate : Spares (View.template view) session := by
  have plainLater (point : Session) : ∀ place ∈ View.filePlaces, ∀ value,
      view.member? point.store (.of place) = some (.stored value) →
        value.kind ≠ .lambda ∧ value ≠ .cache := by
    intro place isPlace value stores
    rw [@Value.member?_of_ne_cache session.store _ _ notCache] at stores
    exact plain place isPlace value stores
  unfold View.template
  refine (spares_storedText notCache _).bind fun directory between ran => ?_
  refine Spares.bind (spares_callMethod notCache _ (fun method => ?_) fun value stores => ?_)
    fun name _ _ => ?_
  · split
    · exact spares_fileName notCache (plainLater between) _
    · exact spares_throw _
  · exact (plainLater between _ (by simp [View.filePlaces]) value stores).1
  · split
    · exact spares_fileText _
    · exact spares_throw _

end File

end View

end Computations

/-! ## Looking names up -/

/-- What is found in frames that are not the cache is the same in stores with the same mappings. -/
theorem find?_of_ne_cache {store other : Store} (sameMappings : other.mappings = store.mappings)
    {frames : List Value} (notCache : ∀ frame ∈ frames, frame ≠ .cache) (name : Text) :
    Context.find? other name frames = Context.find? store name frames := by
  induction frames with
  | nil => rfl
  | cons frame frames inductionHypothesis =>
    unfold Context.find?
    rw [Value.holding?_of_ne_cache sameMappings (notCache frame List.mem_cons_self),
      inductionHypothesis fun other isOuter => notCache other (List.mem_cons_of_mem frame isOuter)]

section Lookup

variable {deeper : Deeper} {names : List Text} {name : Text} {roots frames : List Value}
  {session : Session} {value : Value}

/-- Computing what is held under a name spares the cache, where nothing makes use of it. -/
theorem spares_compute {self : Value} {method : Method}
    (shuns : session.store.ShunsCache names roots) (leads : session.store.LeadsTo names roots self)
    (isNamed : name ∈ names) (holds : self.holding? session.store name = some (.computed method)) :
    Spares (compute deeper self method) session := by
  have notCache := shuns.notCache self leads
  have unused := shuns.notUsed self name method leads isNamed holds
  cases method with
  | returns value => exact spares_pure value
  | raises message => exact spares_throw _
  | own name => exact spares_ownMember notCache name
  | ofView own =>
    have plain : ∀ place ∈ View.filePlaces, ∀ value,
        self.member? session.store (.of place) = some (.stored value) →
          value.kind ≠ .lambda ∧ value ≠ .cache := by
      intro place isPlace value stores
      have leadsOn := Store.LeadsTo.file leads isNamed holds isPlace stores
      exact ⟨shuns.notLambda value leadsOn, shuns.notCache value leadsOn⟩
    cases own with
    | template => exact (spares_viewTemplate notCache plain).bind fun _ _ _ => spares_pure _
    | fileName className => exact spares_fileName notCache plain className
    | render => cases unused
    | partialText => exact spares_throw _
  | clearsCache => cases unused
  | needsArguments => exact spares_throw _

/-- Looking a name up spares the cache, where nothing makes use of it. -/
theorem spares_lookup (shuns : session.store.ShunsCache names frames) (isNamed : name ∈ names) :
    Spares (lookup deeper name frames) session := by
  unfold lookup
  refine Spares.get (fun cache => ?_) ?_
  · have same : Context.find? (session.through cache).store name frames =
        Context.find? session.store name frames :=
      @find?_of_ne_cache session.store (session.through cache).store rfl _
        (fun frame isFrame => shuns.notCache frame (.root isFrame)) name
    rw [same]
  · cases found : Context.find? session.store name frames with
    | none => exact spares_pure _
    | some place =>
      obtain ⟨distance, frame, member⟩ := place
      obtain ⟨isFrame, holds⟩ := holding?_of_find? found
      refine Spares.bind ?_ fun _ _ _ => spares_pure _
      cases member with
      | stored value => exact spares_pure value
      | computed method => exact spares_compute shuns (.root isFrame) isNamed holds

/-- What is computed under a name is what the name leads to, or a method as a function, or what
clearing the cache answers. -/
theorem leadsTo_of_compute {self : Value} {method : Method} {between : Session}
    (leads : session.store.LeadsTo names roots self) (isNamed : name ∈ names)
    (holds : self.holding? session.store name = some (.computed method))
    (computed : compute deeper self method session = (.ok value, between)) :
    session.store.LeadsTo names roots value ∨ value = .builtIn .refusing ∨
      method = .clearsCache ∧ value = .null := by
  cases method with
  | returns kept =>
    cases computed
    exact .inl (.held leads isNamed holds rfl)
  | own other =>
    obtain ⟨-, isOwn | stores⟩ := eq_of_ownMember computed
    · cases isOwn with
      | text content => exact .inl (.text content)
      | function => exact .inr (.inl rfl)
    · refine .inl (.held leads isNamed holds ?_)
      simp [Member.given?, stores]
  | ofView own =>
    cases own with
    | template =>
      obtain ⟨content, _, -, answered⟩ := exists_of_bind_eq_ok computed
      cases answered
      exact .inl (.text content)
    | fileName className =>
      obtain isOwn | ⟨-, stores⟩ := eq_of_fileName computed
      · cases isOwn with
        | text content => exact .inl (.text content)
        | function => exact .inr (.inl rfl)
      · exact .inl (.file leads isNamed holds (by simp [View.filePlaces]) stores)
    | render =>
      obtain ⟨content, _, -, answered⟩ := exists_of_bind_eq_ok computed
      cases answered
      exact .inl (.text content)
    | partialText => cases computed
  | clearsCache =>
    cases computed
    exact .inr (.inr ⟨rfl, rfl⟩)
  | raises message => cases computed
  | needsArguments => cases computed

/-- What a lookup finds is what the name leads to, or a method as a function. -/
theorem leadsTo_of_lookup {frame : Option Value} {between : Session}
    (shuns : session.store.ShunsCache names frames) (isNamed : name ∈ names)
    (ran : lookup deeper name frames session = (.ok (frame, value), between)) :
    session.store.LeadsTo names frames value ∨ value = .builtIn .refusing := by
  obtain rfl | ⟨holder, isFrame, -, ⟨rfl, holds⟩ | ⟨method, holds, computed⟩⟩ :=
    cases_of_lookup ran
  · exact .inl (.text [])
  · exact .inl (.held (.root isFrame) isNamed holds rfl)
  · have leads : session.store.LeadsTo names frames holder := .root isFrame
    obtain leadsOn | isFunction | ⟨rfl, -⟩ := leadsTo_of_compute leads isNamed holds computed
    · exact .inl leadsOn
    · exact .inr isFunction
    · cases shuns.notUsed holder name _ leads isNamed holds

end Lookup

/-! ## Nodes -/

/-- A method as a function spares the cache when it is settled, since it takes nothing. -/
theorem spares_settle_refusing (deeper : Deeper) (partials : Partials) (frame : Option Value)
    (name : Text) {session : Session} :
    Spares (settle deeper partials frame name (.builtIn .refusing)) session :=
  ⟨fun _ => rfl, rfl, rfl⟩

section Nodes

variable {deeper : Deeper} {partials : Partials} {names : List Text} {name : Text}
  {session : Session}

/-- Rendering a named value spares the cache, where nothing makes use of it. -/
theorem spares_interpolation (escaped : Bool)
    (shuns : session.store.ShunsCache names session.frames) (isNamed : name ∈ names) :
    Spares (interpolation deeper partials name escaped) session := by
  rw [interpolation_eq]
  refine Spares.get (fun _ => rfl) ((spares_lookup shuns isNamed).bind ?_)
  rintro ⟨frame, value⟩ between ran
  dsimp only
  split
  · rename_i isLambda
    refine Spares.bind ?_ fun _ _ _ => spares_pure _
    obtain leads | rfl := leadsTo_of_lookup shuns isNamed ran
    · exact absurd isLambda (shuns.notLambda value leads)
    · exact spares_settle_refusing deeper partials frame name
  · exact (spares_displayed value).bind fun _ _ _ => spares_pure _

/-- Rendering a block spares the cache, where nothing makes use of it and rendering its body does
not either. -/
theorem spares_block (inverted : Bool) (source : Text) (delimiters : Delimiters)
    {body : List Node} (shuns : session.store.ShunsCache names session.frames)
    (isNamed : name ∈ names)
    (inside : ∀ point : Session, point.store.ShunsCache names point.frames →
      Spares (deeper partials body) point) :
    Spares (block deeper partials name inverted source delimiters (some body)) session := by
  have looks := @spares_lookup deeper names name _ session shuns isNamed
  unfold block
  refine Spares.get (fun _ => rfl) (looks.bind ?_)
  rintro ⟨frame, value⟩ between ran
  have sameMappings : between.store.mappings = session.store.mappings := by
    simpa [ran] using looks.mappings
  have sameFrames : between.frames = session.frames := by
    simpa [ran] using looks.frames
  have shunsHere : between.store.ShunsCache names between.frames := by
    rw [sameFrames]
    exact shuns.congr sameMappings
  have within {item : Value} (leads : between.store.LeadsTo names between.frames item)
      {point : Session} (mappings : point.store.mappings = between.store.mappings)
      (frames : point.frames = between.frames) :
      Spares (withFrame item (deeper partials body)) point := by
    refine Spares.withFrame (inside _ ?_)
    rw [frames]
    exact (shunsHere.cons leads).congr mappings
  have found := leadsTo_of_lookup shuns isNamed ran
  have notCache : value ≠ .cache := by
    obtain leads | rfl := found
    · exact shuns.notCache value leads
    · simp
  dsimp only
  refine Spares.get (fun cache => ?_) ?_
  · rw [Session.through, Value.truth_of_ne_cache notCache]
  · split
    · split
      · exact spares_pure _
      · exact inside between shunsHere
    · obtain leads | rfl := found
      · have leads : between.store.LeadsTo names between.frames value := by
          rw [sameFrames] at shunsHere ⊢
          exact shunsHere.leadsTo sameMappings.symm leads
        cases hasItems : value.items? with
        | some items =>
          exact spares_joinEach fun item isItem point => within (.item leads hasItems isItem)
        | none =>
          dsimp only
          split
          · rename_i isLambda
            exact absurd isLambda (shunsHere.notLambda value leads)
          · split
            · exact within leads rfl rfl
            · exact spares_pure _
      · exact ⟨fun _ => rfl, rfl, rfl⟩

/-- Rendering a node whose blocks have their bodies and that is no inclusion spares the cache, where
nothing makes use of it. -/
theorem spares_node {node : Node} (hasBodies : node.HasBodies)
    (noInclusion : Node.inclusions [node] = []) (named : Node.names [node] ⊆ names)
    (shuns : session.store.ShunsCache names session.frames)
    (inside : ∀ (body : List Node) (point : Session), (∀ inner ∈ body, inner.HasBodies) →
      Node.inclusions body = [] → Node.names body ⊆ names →
        point.store.ShunsCache names point.frames → Spares (deeper partials body) point) :
    Spares (Render.node deeper partials node) session := by
  cases hasBodies with
  | literal text => exact spares_pure _
  | interpolation name escaped =>
    exact spares_interpolation escaped shuns (named (by simp [Node.names, Node.gather]))
  | @block body name inverted source delimiters bodies =>
    simp only [Node.inclusions, Node.names, Node.gatherAll_cons, Node.gather_block,
      Node.gatherAll_nil, List.append_nil, List.append_subset] at noInclusion named
    exact spares_block inverted source delimiters shuns (named.2 List.mem_cons_self)
      fun point => inside body point bodies noInclusion named.1
  | inclusion name indent => simp [Node.inclusions, Node.gather] at noInclusion
  | foreign value =>
    refine Spares.get (fun cache => ?_) (spares_throw _)
    rw [Session.through, value.describe_of_cache cache]

end Nodes

/-- Nodes whose blocks have their bodies, without inclusions, are rendered without the cache, where
nothing that their names lead to makes use of it. -/
theorem spares_generate (depth : Nat) (partials : Partials) {nodes : List Node}
    {names : List Text} {session : Session} (hasBodies : ∀ node ∈ nodes, node.HasBodies)
    (noInclusions : Node.inclusions nodes = []) (named : Node.names nodes ⊆ names)
    (shuns : session.store.ShunsCache names session.frames) :
    Spares (generate depth partials nodes) session := by
  induction depth generalizing nodes session with
  | zero => exact spares_throw _
  | succ depth inductionHypothesis =>
    refine spares_joinEach fun node isNode point mappings frames => ?_
    have alone {α : Type} (own : Node → List α) :
        Node.gatherAll own [node] ⊆ Node.gatherAll own nodes := by
      simpa using Node.gather_subset own isNode
    refine spares_node (hasBodies node isNode) ?_ (List.Subset.trans (alone _) named) ?_
      fun body point bodies noInclusion named shuns =>
        inductionHypothesis bodies noInclusion named shuns
    · exact List.subset_nil.mp (noInclusions ▸ alone _)
    · rw [frames]
      exact shuns.congr mappings

end Render

end Stencil
