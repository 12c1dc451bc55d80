import Stencil.Proofs.Computation
import Stencil.Proofs.Value.Reach
import Stencil.Render.Evaluate

/-!
# What a lookup comes by

A lookup finds an empty text, what a frame stores, or what a method of a frame computes
(`Render.cases_of_lookup`). What a method computes is a text, what it answers with, or what its
object stores. So no lookup leads out of a region that the store encloses
(`Render.isInside_of_lookup`).
-/

namespace Stencil

namespace Render

variable {α β : Type}

/-! ## What objects answer -/

/-- All results of a computation are of one kind. -/
def Answers (kind : α → Prop) (computation : Render α) : Prop :=
  ∀ session value after, computation session = (.ok value, after) → kind value

/-- A value that is of a kind is all there is. -/
theorem answers_pure {kind : α → Prop} {value : α} (isOfKind : kind value) :
    Answers kind (pure value : Render α) := by
  rintro session _ _ ⟨⟩
  exact isOfKind

/-- The results are those of the last part. -/
theorem Answers.bind {kind : β → Prop} {first : Render α} {next : α → Render β}
    (answers : ∀ value, Answers kind (next value)) : Answers kind (first >>= next) := by
  intro session result after ran
  obtain ⟨value, between, -, ranNext⟩ := exists_of_bind_eq_ok ran
  exact answers value between result after ranNext

/-- What a view comes by without storing it: a text, or one of its methods as a function. -/
inductive IsOwn : Value → Prop where
  | text (content : Text) : IsOwn (.text content)
  | function : IsOwn (.builtIn .refusing)

/-- What a view comes by without storing it holds nothing. -/
theorem IsOwn.isLeaf {value : Value} (isOwn : IsOwn value) : value.IsLeaf := by
  cases isOwn with
  | text content => exact .scalar rfl
  | function => exact .builtIn .refusing

/-- What an object is asked for is what it stores, or a function. -/
theorem eq_of_ownMember {object value : Value} {name : Text} {session after : Session}
    (ran : ownMember object name session = (.ok value, after)) :
    after = session ∧
      (IsOwn value ∨ object.member? session.store name = some (.stored value)) := by
  unfold ownMember at ran
  rw [bind_of_get] at ran
  cases offered : object.member? session.store name with
  | none =>
    simp only [offered] at ran
    cases ran
  | some member =>
    cases member with
    | stored kept =>
      simp only [offered] at ran
      cases ran
      exact ⟨rfl, .inr rfl⟩
    | computed method =>
      simp only [offered] at ran
      cases ran
      exact ⟨rfl, .inl .function⟩

/-- The file name of a view is derived, or what the view stores for it. -/
theorem eq_of_fileName {view value : Value} {className : Text} {session after : Session}
    (ran : View.fileName view className session = (.ok value, after)) :
    IsOwn value ∨ after = session ∧
      view.member? session.store (.of "template_file") = some (.stored value) := by
  unfold View.fileName at ran
  obtain ⟨file, between, asked, ranRest⟩ := exists_of_bind_eq_ok ran
  obtain ⟨rfl, known⟩ := eq_of_ownMember asked
  rw [bind_of_get] at ranRest
  dsimp only at ranRest
  split at ranRest
  · cases ranRest
    exact known.imp_right fun offered => ⟨rfl, offered⟩
  · left
    have isText (name : Text) : Answers IsOwn (do
        let extension ← View.storedText view "template_extension"
        return Value.text (View.classPath name ++ .of "." ++ extension)) :=
      Answers.bind fun extension => answers_pure (.text _)
    refine Answers.bind (fun space => ?_) _ _ _ ranRest
    split
    · split
      · exact Answers.bind isText
      · exact Answers.bind isText
    · exact Answers.bind isText

/-- The partials of a view are a function that refuses, its files, or what it stores for them. -/
theorem eq_of_partialsOf {view : Value} {source : Partials} {session after : Session}
    (ran : partialsOf view session = (.ok source, after)) :
    source = .called (.builtIn .refusing) ∨ source = .filesOf view ∨
      ∃ value, view.member? session.store (.of "partial") = some (.stored value) ∧
        source = .ofValue value := by
  unfold partialsOf at ran
  rw [bind_of_get] at ran
  cases offers : view.member? session.store (.of "partial") with
  | none =>
    simp only [offers] at ran
    cases ran
    exact .inl rfl
  | some member =>
    simp only [offers] at ran
    cases member with
    | stored value =>
      cases ran
      exact .inr (.inr ⟨value, rfl, rfl⟩)
    | computed method =>
      cases method with
      | ofView own =>
        cases own with
        | partialText =>
          cases ran
          exact .inr (.inl rfl)
        | _ =>
          cases ran
          exact .inl rfl
      | _ =>
        cases ran
        exact .inl rfl

/-! ## What is found in frames -/

/-- What is held and computed is offered. -/
theorem member?_of_holding? {store : Store} {holder : Value} {name : Text} {method : Method}
    (computes : holder.holding? store name = some (.computed method)) :
    holder.member? store name = some (.computed method) := by
  cases holder with
  | mapping address =>
    obtain ⟨_, _, differs⟩ := Option.map_eq_some_iff.mp computes
    cases differs
  | frozen entries =>
    obtain ⟨_, _, differs⟩ := Option.map_eq_some_iff.mp computes
    cases differs
  | _ =>
    simp only [Value.holding?, Option.ite_none_right_eq_some] at computes
    exact computes.2

/-- What is found in frames is what one of them holds. -/
theorem holding?_of_find? {store : Store} {name : Text} {frames : List Value} {distance : Nat}
    {frame : Value} {member : Member}
    (found : Context.find? store name frames = some (distance, frame, member)) :
    frame ∈ frames ∧ frame.holding? store name = some member := by
  induction frames generalizing distance with
  | nil => cases found
  | cons innermost outer inductionHypothesis =>
    unfold Context.find? at found
    cases held : innermost.holding? store name with
    | some offered =>
      simp only [held, Option.some.injEq, Prod.mk.injEq] at found
      obtain ⟨-, rfl, rfl⟩ := found
      exact ⟨List.mem_cons_self, held⟩
    | none =>
      simp only [held, Option.map_eq_some_iff] at found
      obtain ⟨⟨further, rest⟩, foundFurther, same⟩ := found
      obtain ⟨-, rfl⟩ := Prod.mk.inj same
      obtain ⟨isOuter, holds⟩ := inductionHypothesis foundFurther
      exact ⟨List.mem_cons_of_mem innermost isOuter, holds⟩

/-- A lookup goes by what is found in the frames. -/
theorem lookup_of_find? {deeper : Deeper} {name : Text} {frames : List Value}
    {session : Session} {distance : Nat} {frame : Value} {member : Member}
    (found : Context.find? session.store name frames = some (distance, frame, member)) :
    lookup deeper name frames session =
      (do return (some frame, ← memberValue deeper frame member)) session := by
  unfold lookup
  rw [bind_of_get, found]

/-- Where a name is not found, its value is an empty text. -/
theorem lookup_of_find?_eq_none {deeper : Deeper} {name : Text} {frames : List Value}
    {session : Session}
    (absent : Context.find? session.store name frames = none) :
    lookup deeper name frames session = (.ok (frames.getLast?, .text []), session) := by
  unfold lookup
  rw [bind_of_get, absent]
  rfl

/-- A lookup finds nothing but the empty text, or what a frame stores, or what a method of a frame
computes. -/
theorem cases_of_lookup {deeper : Deeper} {name : Text} {frames : List Value}
    {frame : Option Value} {value : Value} {session after : Session}
    (ran : lookup deeper name frames session = (.ok (frame, value), after)) :
    value = .text [] ∨ ∃ holder ∈ frames, frame = some holder ∧
      (after = session ∧ holder.holding? session.store name = some (.stored value) ∨
        ∃ method, holder.holding? session.store name = some (.computed method) ∧
          compute deeper holder method session = (.ok value, after)) := by
  cases found : Context.find? session.store name frames with
  | none =>
    rw [lookup_of_find?_eq_none found] at ran
    obtain ⟨answer, -⟩ := Prod.mk.inj ran
    obtain ⟨-, rfl⟩ := Prod.mk.inj (Except.ok.inj answer)
    exact .inl rfl
  | some place =>
    obtain ⟨distance, holder, member⟩ := place
    obtain ⟨isFrame, holds⟩ := holding?_of_find? found
    rw [lookup_of_find? found] at ran
    obtain ⟨offered, between, computed, ranRest⟩ := exists_of_bind_eq_ok ran
    cases ranRest
    refine .inr ⟨holder, isFrame, rfl, ?_⟩
    cases member with
    | stored kept =>
      cases computed
      exact .inl ⟨rfl, holds⟩
    | computed method => exact .inr ⟨method, holds, computed⟩

/-- A lambda that a lookup finds in a mapping is what the mapping holds, and the mapping is a frame.
No method was run to find it. -/
theorem held_of_lookup {deeper : Deeper} {name : Text} {frames : List Value} {address : Nat}
    {function : Value} {session after : Session}
    (ran : lookup deeper name frames session = (.ok (some (.mapping address), function), after))
    (isLambda : function.kind = .lambda) :
    .mapping address ∈ frames ∧
      (after.store.entries address).lookup (.text name) = some function := by
  obtain rfl | ⟨holder, isFrame, same, found⟩ := cases_of_lookup ran
  · cases isLambda
  · cases same
    refine ⟨isFrame, ?_⟩
    obtain ⟨rfl, holds⟩ | ⟨method, computes, -⟩ := found
    · obtain ⟨stored, held, same⟩ := Option.map_eq_some_iff.mp holds
      cases same
      exact held
    · obtain ⟨_, _, differs⟩ := Option.map_eq_some_iff.mp computes
      cases differs

/-! ## Partials -/

end Render

/-- Whether a member is a method that only views have. -/
def Member.isOfView : Member → Bool
  | .computed (.ofView _) => true
  | _ => false

/-- Whether an object has a method that only views have. -/
def Value.isView : Value → Bool
  | .object members _ _ _ => members.any fun member => member.2.isOfView
  | _ => false

/-- What offers a method that only views have is a view. -/
theorem Value.isView_of_member? {store : Store} {value : Value} {name : Text} {method : ViewMethod}
    (offers : value.member? store name = some (.computed (.ofView method))) :
    value.isView = true := by
  cases value with
  | object members shown truth role =>
    rw [member?, Option.or_eq_some_iff] at offers
    obtain listed | ⟨-, offered⟩ := offers
    · obtain ⟨earlier, later, rfl, -⟩ := List.lookup_eq_some_iff.mp listed
      simp [isView, Member.isOfView]
    · split at offered
      · unfold classMember? at offered
        split at offered <;> cases offered
      · cases offered
  | date day =>
    change day.member? name = _ at offers
    unfold Date.member? at offers
    split_ifs at offers <;> cases offers
  | duration length =>
    change length.member? name = _ at offers
    unfold Duration.member? at offers
    split_ifs at offers <;> cases offers
  | set address =>
    change setMember? address name = _ at offers
    unfold setMember? at offers
    split at offers
    · cases offers
    · split at offers <;> cases offers
  | cache =>
    obtain ⟨_, differs, -⟩ | differs | differs := Cache.cases_of_member? offers <;> cases differs
  | _ => cases offers

/-- The values that can have an effect when inclusions are looked up in partials: what is called,
and a view, which has methods that find its template and render it. -/
def Partials.sources : Partials → List Value
  | .absent => []
  | .called function => [function]
  | .held holder => if holder.isView then [holder] else []
  | .filesOf _ => []

/-- The sources of partials are in a region. -/
def Partials.IsInside (region : Region) (partials : Partials) : Prop :=
  ∀ source ∈ partials.sources, region source

/-- The partials that a value of a region gives are in the region. -/
theorem Partials.isInside_ofValue {region : Region} {value : Value} (isInside : region value) :
    (Partials.ofValue value).IsInside region := by
  intro source isSource
  have isValue : source = value := by
    unfold Partials.ofValue at isSource
    split at isSource
    · cases isSource
    · split at isSource
      · exact List.mem_singleton.mp isSource
      · unfold sources at isSource
        dsimp only at isSource
        split at isSource
        · exact List.mem_singleton.mp isSource
        · cases isSource
  exact isValue ▸ isInside

namespace Render

/-! ## Regions -/

variable {region : Region}

/-- What a method of a value in the region computes is in the region. -/
theorem isInside_of_compute {deeper : Deeper} {self value : Value} {method : Method} {name : Text}
    {session after : Session} (encloses : session.store.Encloses region)
    (selfInside : region self)
    (computes : self.holding? session.store name = some (.computed method))
    (ran : compute deeper self method session = (.ok value, after)) : region value := by
  have stored {other : Text}
      (stores : self.member? session.store other = some (.stored value)) : region value :=
    encloses.step self value selfInside (.stored stores)
  have isText {computation : Render Text}
      (ran : (do return .text (← computation) : Render Value) session = (.ok value, after)) :
      region value :=
    encloses.leaf value
      (Answers.bind (fun _ => answers_pure (.scalar rfl)) session value after ran)
  cases method with
  | returns answer =>
    cases ran
    exact encloses.step self value selfInside (.answer (member?_of_holding? computes))
  | raises message => cases ran
  | own other =>
    obtain ⟨-, isOwn | stores⟩ := eq_of_ownMember ran
    · exact encloses.leaf value isOwn.isLeaf
    · exact stored stores
  | ofView own =>
    cases own with
    | template => exact isText ran
    | fileName className =>
      obtain isOwn | ⟨-, stores⟩ := eq_of_fileName ran
      · exact encloses.leaf value isOwn.isLeaf
      · exact stored stores
    | render => exact isText ran
    | partialText => cases ran
  | clearsCache =>
    exact encloses.leaf value
      (Answers.bind (fun _ => answers_pure (.scalar rfl)) session value after ran)
  | needsArguments => cases ran

/-- What a lookup in frames of the region finds is in the region. -/
theorem isInside_of_lookup {deeper : Deeper} {name : Text} {frames : List Value}
    {frame : Option Value} {value : Value} {session after : Session}
    (encloses : session.store.Encloses region) (framesInside : ∀ frame ∈ frames, region frame)
    (ran : lookup deeper name frames session = (.ok (frame, value), after)) : region value := by
  obtain rfl | ⟨holder, isFrame, -, ⟨-, holds⟩ | ⟨method, computes, computed⟩⟩ :=
    cases_of_lookup ran
  · exact encloses.leaf _ (.scalar rfl)
  · exact encloses.step holder value (framesInside holder isFrame) (.held holds)
  · exact isInside_of_compute encloses (framesInside holder isFrame) computes computed

end Render

end Stencil
