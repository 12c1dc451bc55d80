import Stencil.Context
import Stencil.Value.Display
import Stencil.Value.Truth

/-!
# Values for those who do not see everything

Who looks at values may not see every member of an object (`Sight`). The face of a value is what is
left of it without the members that are not seen, at any depth (`Value.face`), and the face of a
store is the store with the faces of all that it holds (`Store.face`). A method that answers with
what its object has under a name lets that be seen, so it is replaced in the face by a method that
answers with the same if the name is not seen. Two values that differ in nothing but members that
are not seen, and with which no method answers, have the same face (`Value.face_object_insert`).

Whatever a template can ask a value or a store for does not depend on what is not seen: the kind and
the truth of a value, its text, what a frame holds under a name. A public name is always seen, and
so is what a call of an object comes to.
-/

namespace Stencil

/-- Which members of objects are seen. -/
structure Sight where
  sees : Role → Text → Bool
  /-- Public members are seen. -/
  sees_of_public : ∀ role name, isPrivate name = false → sees role name = true
  /-- What an object that can be called answers is seen. -/
  sees_call : sees .callable (.of "__call__") = true
  /-- What is seen of a class is seen of the things that it makes. -/
  sees_made : sees .thing = sees .maker

/-! ## Faces -/

/-- A method of an object with some members. If it answers with a member that is not seen, it is
seen what it answers. -/
def Method.opened (sight : Sight) (role : Role) (members : List (Text × Member)) :
    Method → Method
  | .own name =>
    if sight.sees role name then .own name
    else match members.lookup name with
      | some (.stored value) => .returns value
      | some (.computed _) => .returns (.builtIn .refusing)
      | none => .own name
  | method => method

/-- A member of an object with some members. -/
def Member.opened (sight : Sight) (role : Role) (members : List (Text × Member)) :
    Member → Member
  | .stored value => .stored value
  | .computed method => .computed (method.opened sight role members)

/-- Those members of an object that are seen. -/
def Member.seen (sight : Sight) (role : Role) (members : List (Text × Member)) :
    List (Text × Member) :=
  (members.filter fun member => sight.sees role member.1).map fun member =>
    (member.1, member.2.opened sight role members)

mutual

/-- A value without the members that are not seen, at any depth. -/
def Value.face (sight : Sight) : Value → Value
  | .list items => .list (Value.faces sight items)
  | .tuple items => .tuple (Value.faces sight items)
  | .frozen entries => .frozen (Value.facesUnder sight entries)
  | .object members shown truth role =>
    .object (Member.seen sight role (Member.faces sight members)) shown truth role
  | value => value

/-- The faces of several values. -/
def Value.faces (sight : Sight) : List Value → List Value
  | [] => []
  | item :: items => item.face sight :: Value.faces sight items

/-- The faces of the values in a mapping. -/
def Value.facesUnder (sight : Sight) : List (Key × Value) → List (Key × Value)
  | [] => []
  | (key, value) :: entries => (key, value.face sight) :: Value.facesUnder sight entries

/-- The faces of several members. -/
def Member.faces (sight : Sight) : List (Text × Member) → List (Text × Member)
  | [] => []
  | (name, member) :: members => (name, member.face sight) :: Member.faces sight members

/-- A member with the face of its value. -/
def Member.face (sight : Sight) : Member → Member
  | .stored value => .stored (value.face sight)
  | .computed method => .computed (method.face sight)

/-- A method with the face of its answer. -/
def Method.face (sight : Sight) : Method → Method
  | .returns value => .returns (value.face sight)
  | method => method

end

/-- What is seen of a method of a holder. -/
def Method.faceIn (sight : Sight) (holder : Value) : Method → Method
  | .own name => match holder with
    | .object members _ _ role => opened sight role (Member.faces sight members) (.own name)
    | _ => .own name
  | method => method.face sight

/-- What is seen of a member of a holder. -/
def Member.faceIn (sight : Sight) (holder : Value) : Member → Member
  | .stored value => .stored (value.face sight)
  | .computed method => .computed (method.faceIn sight holder)

/-- Whether it is seen what a holder has under a name. -/
def Value.shows (sight : Sight) (name : Text) : Value → Bool
  | .object _ _ _ role => sight.sees role name
  | _ => true

/-- What is seen of the behaviour of a lambda: what it answers with and what it writes. -/
def Behaviour.face (sight : Sight) : Behaviour → Behaviour
  | .returns value => .returns (value.face sight)
  | .raises message => .raises message
  | .counts next => .counts fun calls => (next calls).face sight
  | .renders text next => .renders text fun content => (next content).face sight
  | .tries text next => .tries text fun outcome => (next outcome).face sight
  | .reads address name next => .reads address name fun shown => (next shown).face sight
  | .writes address name value next => .writes address name (value.face sight) (next.face sight)

/-- What is seen of a lambda. -/
def Lambda.face (sight : Sight) (lambda : Lambda) : Lambda :=
  { lambda with behaviour := fun raw => (lambda.behaviour raw).face sight }

/-- What is seen of a store. -/
def Store.face (sight : Sight) (store : Store) : Store where
  mappings := store.mappings.map (Value.facesUnder sight)
  sets := store.sets.map (Value.faces sight)
  lambdas := store.lambdas.map (Lambda.face sight)
  cache := store.cache

section Sight

variable (sight : Sight)

namespace Value

/-- The faces of several values are the face of each of them. -/
@[simp] theorem faces_eq_map (items : List Value) :
    faces sight items = items.map (face sight) := by
  induction items with
  | nil => rfl
  | cons item items inductionHypothesis => rw [faces, inductionHypothesis, List.map_cons]

/-- A mapping has the faces of its values. -/
@[simp] theorem facesUnder_eq_map (entries : List (Key × Value)) :
    facesUnder sight entries = entries.map fun entry => (entry.1, entry.2.face sight) := by
  induction entries with
  | nil => rfl
  | cons entry entries inductionHypothesis =>
    obtain ⟨key, value⟩ := entry
    rw [facesUnder, inductionHypothesis, List.map_cons]

/-- Under a key a mapping has the face of its value. -/
theorem lookup_facesUnder (entries : List (Key × Value)) (key : Key) :
    (facesUnder sight entries).lookup key = (entries.lookup key).map (face sight) := by
  induction entries with
  | nil => rfl
  | cons entry entries inductionHypothesis =>
    obtain ⟨present, value⟩ := entry
    rw [facesUnder, List.lookup_cons, List.lookup_cons, inductionHypothesis]
    cases key == present <;> rfl

/-- A mapping that is written to has the face of what is written. -/
theorem facesUnder_put (entries : List (Key × Value)) (key : Key) (value : Value) :
    facesUnder sight (Entries.put entries key value) =
      Entries.put (facesUnder sight entries) key (value.face sight) := by
  induction entries with
  | nil => rfl
  | cons entry entries inductionHypothesis =>
    obtain ⟨present, old⟩ := entry
    rw [facesUnder, Entries.put, Entries.put]
    cases present == key with
    | true => rfl
    | false => exact congrArg (_ :: ·) inductionHypothesis

/-! ## What does not depend on what is not seen -/

/-- The kind of a value is seen. -/
@[simp] theorem kind_face (value : Value) : (value.face sight).kind = value.kind := by
  cases value with
  | object members shown truth role => cases role <;> rfl
  | _ => rfl

/-- The items of a sequence are seen. -/
theorem items?_face (value : Value) :
    (value.face sight).items? = value.items?.map (List.map (face sight)) := by
  cases value with
  | range bound =>
    simp only [face, items?, Option.map_some, List.map_map]
    rfl
  | _ => simp [face, items?]

mutual

/-- Whether a value says the same for ever is seen. -/
theorem isFixed_face (value : Value) : (value.face sight).isFixed = value.isFixed := by
  cases value with
  | tuple items => exact areFixed_faces items
  | _ => rfl

/-- Whether several values say the same for ever is seen. -/
theorem areFixed_faces (items : List Value) :
    areFixed (faces sight items) = areFixed items := by
  cases items with
  | nil => rfl
  | cons item items => rw [faces, areFixed, areFixed, isFixed_face item, areFixed_faces items]

end

mutual

/-- How a value is shown is seen. -/
theorem describeWith_face (references : References) (value : Value) :
    describeWith references (value.face sight) = describeWith references value := by
  cases value with
  | list items => rw [face, describeWith, describeAllWith_faces references items, describeWith]
  | tuple items => rw [face, describeWith, describeAllWith_faces references items, describeWith]
  | frozen entries =>
    rw [face, describeWith, describeEntriesWith_facesUnder references entries, describeWith]
  | _ => rfl

/-- How several values are shown is seen. -/
theorem describeAllWith_faces (references : References) (items : List Value) :
    describeAllWith references (faces sight items) = describeAllWith references items := by
  cases items with
  | nil => rfl
  | cons item items =>
    rw [faces, describeAllWith, describeAllWith, describeWith_face references item,
      describeAllWith_faces references items]

/-- How the entries of a mapping are shown is seen. -/
theorem describeEntriesWith_facesUnder (references : References) (entries : List (Key × Value)) :
    describeEntriesWith references (facesUnder sight entries) =
      describeEntriesWith references entries := by
  cases entries with
  | nil => rfl
  | cons entry entries =>
    obtain ⟨key, value⟩ := entry
    rw [facesUnder, describeEntriesWith, describeEntriesWith, describeWith_face references value,
      describeEntriesWith_facesUnder references entries]

end

end Value

/-- The faces of several members are the face of each of them. -/
theorem Member.faces_eq_map (members : List (Text × Member)) :
    faces sight members = members.map fun member => (member.1, member.2.face sight) := by
  induction members with
  | nil => rfl
  | cons first members inductionHypothesis =>
    obtain ⟨name, member⟩ := first
    rw [faces, inductionHypothesis, List.map_cons]

/-- Under a name there is the face of the member. -/
theorem Member.lookup_faces (members : List (Text × Member)) (name : Text) :
    (faces sight members).lookup name = (members.lookup name).map (face sight) := by
  induction members with
  | nil => rfl
  | cons first members inductionHypothesis =>
    obtain ⟨present, member⟩ := first
    rw [faces, List.lookup_cons, List.lookup_cons, inductionHypothesis]
    cases name == present <;> rfl

/-- Under a name that is seen there is the member, if there is one. -/
theorem Member.lookup_seen (role : Role) (members : List (Text × Member)) (name : Text) :
    (seen sight role members).lookup name =
      if sight.sees role name then (members.lookup name).map (opened sight role members)
      else none := by
  unfold seen
  generalize opened sight role members = opens
  induction members with
  | nil => simp
  | cons first members inductionHypothesis =>
    obtain ⟨present, member⟩ := first
    rw [List.lookup_cons, List.filter_cons]
    cases isThere : name == present with
    | true =>
      cases eq_of_beq isThere
      cases isSeen : sight.sees role name with
      | true => simp
      | false => simpa [isSeen] using inductionHypothesis
    | false =>
      split
      · rw [List.map_cons, List.lookup_cons, isThere]
        exact inductionHypothesis
      · exact inductionHypothesis

/-- A thing that a class makes has the face of what the class offers. -/
theorem Member.seen_made (members : List (Text × Member)) :
    seen sight .thing members = seen sight .maker members := by
  have sameOpened : opened sight .thing members = opened sight .maker members := by
    funext member
    cases member with
    | stored value => rfl
    | computed method => cases method <;> simp [opened, Method.opened, sight.sees_made]
  unfold seen
  rw [sameOpened, sight.sees_made]

/-- What an object answers with that is asked for a member: what is stored, or a method as a
function. -/
def Member.asValue : Member → Value
  | .stored value => value
  | .computed _ => .builtIn .refusing

section Own

variable {object : Value} {members : List (Text × Member)} {member : Member} {role : Role}
  {name : Text}

/-- Under a name that is not seen an object offers its own member, if there is one. -/
theorem Value.member?_of_unseen (unseen : sight.sees role name = false)
    (members : List (Text × Member)) (shown : Text) (truth : Bool) (store : Store) :
    (Value.object members shown truth role).member? store name = members.lookup name := by
  have notOrder : name ≠ .of "mro" := by
    rintro rfl
    rw [sight.sees_of_public role _ (by decide)] at unseen
    cases unseen
  rw [member?, classMember?, if_neg notOrder, ite_self, Option.or_none]

/-- A method that answers with what is seen is seen to do so. -/
theorem Method.faceIn_own_of_shows (isShown : object.shows sight name = true) :
    faceIn sight object (.own name) = .own name := by
  cases object with
  | object members shown truth role => exact if_pos isShown
  | _ => rfl

/-- A method that answers with what its object does not have is seen to do so. -/
theorem Method.faceIn_own_of_absent (absent : members.lookup name = none) (shown : Text)
    (truth : Bool) (role : Role) :
    faceIn sight (.object members shown truth role) (.own name) = .own name := by
  simp [faceIn, opened, Member.lookup_faces, absent]

/-- Of a method that answers with what is not seen it is seen what it answers. -/
theorem Method.faceIn_own_of_unseen (unseen : sight.sees role name = false)
    (held : members.lookup name = some member) (shown : Text) (truth : Bool) :
    faceIn sight (.object members shown truth role) (.own name) =
      .returns (member.asValue.face sight) := by
  have looked := Member.lookup_faces sight members name
  cases member with
  | stored value => simp [faceIn, opened, unseen, looked, held, Member.face, Member.asValue]
  | computed method =>
    simp [faceIn, opened, unseen, looked, held, Member.face, Member.asValue, Value.face]

end Own

/-! ## Stores -/

namespace Store

variable (store : Store)

/-- The entries of a mapping are seen. -/
@[simp] theorem entries_face (address : Nat) :
    (store.face sight).entries address = Value.facesUnder sight (store.entries address) := by
  simp only [entries, face, Array.getD_eq_getD_getElem?, Array.getElem?_map]
  cases store.mappings[address]? <;> rfl

/-- The items of a set are seen. -/
@[simp] theorem items_face (address : Nat) :
    (store.face sight).items address = Value.faces sight (store.items address) := by
  simp only [items, face, Array.getD_eq_getD_getElem?, Array.getElem?_map]
  cases store.sets[address]? <;> rfl

/-- A lambda is seen. -/
@[simp] theorem lambdas_face (address : Nat) :
    (store.face sight).lambdas[address]? = store.lambdas[address]?.map (Lambda.face sight) :=
  Array.getElem?_map ..

/-- The store of what is seen has the same cache. -/
@[simp] theorem cache_face : (store.face sight).cache = store.cache :=
  rfl

/-- How what values refer to is shown is seen. -/
theorem references_face (depth : Nat) :
    Value.references (store.face sight) depth = Value.references store depth := by
  induction depth with
  | zero => rfl
  | succ depth inductionHypothesis =>
    simp only [Value.references, inductionHypothesis, entries_face, items_face,
      Value.describeEntriesWith_facesUnder, Value.describeAllWith_faces]

/-- How all that values refer to is shown is seen. -/
theorem allReferences_face :
    Value.allReferences (store.face sight) = Value.allReferences store := by
  rw [Value.allReferences, references_face]
  simp [Value.allReferences, face]

/-- What is seen of a changed item is seen of the array with the item changed. -/
theorem map_modify {Item Face : Type} {items : Array Item} {index : Nat} {face : Item → Face}
    {change : Item → Item} {changeFace : Face → Face}
    (commutes : ∀ item, face (change item) = changeFace (face item)) :
    (items.modify index change).map face = (items.map face).modify index changeFace := by
  refine Array.ext_getElem? fun other => ?_
  rw [Array.getElem?_map, Array.getElem?_modify, Array.getElem?_modify, Array.getElem?_map]
  split
  · simp [Option.map_map, Function.comp_def, commutes]
  · rfl

/-- A value written is seen. -/
theorem face_write (address : Nat) (name : Text) (value : Value) :
    (store.write address name value).face sight =
      (store.face sight).write address name (value.face sight) := by
  simp only [face, write]
  rw [map_modify]
  exact fun entries => Value.facesUnder_put sight entries (.text name) value

/-- A call of a lambda is counted, whatever is seen. -/
theorem face_countCall (address : Nat) :
    (store.countCall address).face sight = (store.face sight).countCall address := by
  simp only [face, countCall]
  rw [map_modify]
  exact fun _ => rfl

/-- The items of a set are seen to change. -/
theorem face_changeSet (address : Nat) {change : List Value → List Value}
    (commutes : ∀ items, Value.faces sight (change items) = change (Value.faces sight items)) :
    (store.changeSet address change).face sight = (store.face sight).changeSet address change := by
  simp only [face, changeSet]
  rw [map_modify commutes]

end Store

namespace Value

variable (store : Store) (value : Value)

/-- The truth of a value is seen. -/
@[simp] theorem truth_face : (value.face sight).truth (store.face sight) = value.truth store := by
  cases value <;> simp [face, truth]

/-- How a value is shown is seen. -/
theorem describe_face :
    (value.face sight).describe (store.face sight) = value.describe store := by
  rw [describe, describe, Store.allReferences_face, describeWith_face]

/-- The text of a value is seen. -/
theorem shown_face : (value.face sight).shown (store.face sight) = value.shown store := by
  cases value with
  | frozen entries =>
    rw [face, shown, Store.allReferences_face, describeEntriesWith_facesUnder, shown]
  | text content => rfl
  | date day => rfl
  | _ => exact describe_face sight store _

/-- What is output for a value is seen. -/
@[simp] theorem display_face :
    (value.face sight).display (store.face sight) = value.display store := by
  have same := shown_face sight store value
  cases value with
  | null => rfl
  | _ => exact same

/-- What a value offers under a name that is seen has its face there. -/
theorem member?_face {name : Text} (isShown : value.shows sight name = true) :
    (value.face sight).member? (store.face sight) name =
      (value.member? store name).map (Member.faceIn sight value) := by
  cases value with
  | object members shown truth role =>
    have isSeen : sight.sees role name = true := isShown
    have opens : Member.opened sight role (Member.faces sight members) ∘ Member.face sight =
        Member.faceIn sight (.object members shown truth role) := by
      funext member
      cases member with
      | stored value => rfl
      | computed method => cases method <;> rfl
    have offers := Member.lookup_seen sight role (Member.faces sight members) name
    rw [if_pos isSeen, Member.lookup_faces, Option.map_map, opens] at offers
    rw [face, member?, member?, offers, Option.map_or]
    split
    · unfold classMember?
      split <;> rfl
    · rfl
  | date day =>
    change day.member? name = (day.member? name).map (Member.faceIn sight (.date day))
    unfold Date.member?
    repeat' split
    all_goals rfl
  | duration length =>
    change length.member? name = (length.member? name).map (Member.faceIn sight (.duration length))
    unfold Duration.member?
    repeat' split
    all_goals rfl
  | set address =>
    change setMember? address name =
      (setMember? address name).map (Member.faceIn sight (.set address))
    unfold setMember?
    repeat' split
    all_goals rfl
  | cache =>
    change store.cache.member? name = (store.cache.member? name).map (Member.faceIn sight .cache)
    unfold Cache.member?
    repeat' split
    all_goals rfl
  | _ => rfl

/-- Under a public name it is seen what a value has. -/
theorem shows_of_public {name : Text} (isPublic : isPrivate name = false) :
    value.shows sight name = true := by
  cases value with
  | object members shown truth role => exact sight.sees_of_public role name isPublic
  | _ => rfl

/-- What is no mapping holds what it offers, if it is an object and the name is public. -/
theorem holding?_of_kind_ne {store : Store} {value : Value} (notMapping : value.kind ≠ .mapping)
    (name : Text) :
    value.holding? store name =
      if value.kind = .object ∧ ¬isPrivate name then value.member? store name else none := by
  cases value with
  | mapping address => exact absurd rfl notMapping
  | frozen entries => exact absurd rfl notMapping
  | _ => rfl

/-- A scalar is no sequence. -/
theorem items?_of_scalar {value : Value} (isScalar : value.kind = .scalar) :
    value.items? = none := by
  cases value <;> first | rfl | cases isScalar

/-- A scalar holds nothing. -/
theorem holding?_of_scalar {store : Store} {value : Value} (isScalar : value.kind = .scalar)
    (name : Text) : value.holding? store name = none := by
  rw [holding?_of_kind_ne (by simp [isScalar]), if_neg (by simp [isScalar])]

/-- What a frame holds is seen. -/
theorem holding?_face (name : Text) :
    (value.face sight).holding? (store.face sight) name =
      (value.holding? store name).map (Member.faceIn sight value) := by
  by_cases isMapping : value.kind = .mapping
  · cases value with
    | mapping address =>
      simp only [face, holding?, Store.entries_face, lookup_facesUnder, Option.map_map]
      rfl
    | frozen entries =>
      simp only [face, holding?, lookup_facesUnder, Option.map_map]
      rfl
    | object members shown truth role => cases role <;> cases isMapping
    | _ => cases isMapping
  · rw [holding?_of_kind_ne isMapping, holding?_of_kind_ne (by rwa [kind_face]), kind_face]
    split
    · rename_i holds
      have isPublic : isPrivate name = false := Bool.eq_false_iff.mpr holds.2
      exact member?_face sight store value (shows_of_public sight value isPublic)
    · rfl

end Value

end Sight

/-! ## Seeing everything -/

/-- Everything is seen. -/
def Sight.full : Sight where
  sees _ _ := true
  sees_of_public _ _ _ := rfl
  sees_call := rfl
  sees_made := rfl

/-- Where everything is seen, all members are, as they are. -/
theorem Member.seen_full (role : Role) (members : List (Text × Member)) :
    seen .full role members = members := by
  have same : opened .full role members = id := by
    funext member
    cases member with
    | stored value => rfl
    | computed method => cases method <;> rfl
  have all : members.filter (fun member => Sight.full.sees role member.1) = members :=
    List.filter_eq_self.mpr fun _ _ => rfl
  simp [seen, same, all]

mutual

/-- Where everything is seen, a value is its own face. -/
@[simp] theorem Value.face_full (value : Value) : value.face .full = value := by
  cases value with
  | list items => exact congrArg Value.list (Value.faces_full items)
  | tuple items => exact congrArg Value.tuple (Value.faces_full items)
  | frozen entries => exact congrArg Value.frozen (Value.facesUnder_full entries)
  | object members shown truth role =>
    rw [Value.face, Member.faces_full members, Member.seen_full]
  | _ => rfl

/-- Where everything is seen, several values are their own faces. -/
theorem Value.faces_full (items : List Value) : Value.faces .full items = items := by
  cases items with
  | nil => rfl
  | cons item items => rw [Value.faces, Value.face_full item, Value.faces_full items]

/-- Where everything is seen, the values in a mapping are their own faces. -/
theorem Value.facesUnder_full (entries : List (Key × Value)) :
    Value.facesUnder .full entries = entries := by
  cases entries with
  | nil => rfl
  | cons entry entries =>
    obtain ⟨key, value⟩ := entry
    rw [Value.facesUnder, Value.face_full value, Value.facesUnder_full entries]

/-- Where everything is seen, several members are their own faces. -/
theorem Member.faces_full (members : List (Text × Member)) :
    Member.faces .full members = members := by
  cases members with
  | nil => rfl
  | cons first members =>
    obtain ⟨name, member⟩ := first
    rw [Member.faces, Member.face_full member, Member.faces_full members]

/-- Where everything is seen, a member is its own face. -/
theorem Member.face_full (member : Member) : member.face .full = member := by
  cases member with
  | stored value => exact congrArg Member.stored (Value.face_full value)
  | computed method => exact congrArg Member.computed (Method.face_full method)

/-- Where everything is seen, a method is its own face. -/
theorem Method.face_full (method : Method) : method.face .full = method := by
  cases method with
  | returns value => exact congrArg Method.returns (Value.face_full value)
  | _ => rfl

end

/-- Where everything is seen, the behaviour of a lambda is its own face. -/
theorem Behaviour.face_full (behaviour : Behaviour) : behaviour.face .full = behaviour := by
  induction behaviour with
  | returns value => rw [face, Value.face_full]
  | raises message => rfl
  | counts next inductionHypothesis => exact congrArg counts (funext inductionHypothesis)
  | renders text next inductionHypothesis =>
    exact congrArg (renders text) (funext inductionHypothesis)
  | tries text next inductionHypothesis => exact congrArg (tries text) (funext inductionHypothesis)
  | reads address name next inductionHypothesis =>
    exact congrArg (reads address name) (funext inductionHypothesis)
  | writes address name value next inductionHypothesis =>
    rw [face, Value.face_full, inductionHypothesis]

/-- Where everything is seen, a lambda is its own face. -/
theorem Lambda.face_full (lambda : Lambda) : lambda.face .full = lambda := by
  have same : (fun raw => (lambda.behaviour raw).face .full) = lambda.behaviour :=
    funext fun raw => (lambda.behaviour raw).face_full
  rw [face, same]

/-- Where everything is seen, a store is its own face. -/
@[simp] theorem Store.face_full (store : Store) : store.face .full = store := by
  have sameMappings : Value.facesUnder .full = id := funext Value.facesUnder_full
  have sameSets : Value.faces .full = id := funext Value.faces_full
  have sameLambdas : Lambda.face .full = id := funext Lambda.face_full
  simp only [Store.face, sameMappings, sameSets, sameLambdas, Array.map_id]

end Stencil
