import Mathlib.Tactic.SplitIfs
import Stencil.Context

/-!
# What can be come by

A value leads to others: a sequence to its items, a mapping or an object to what it holds, a lambda
to what it writes and to where it writes (`Store.Offers`). What can be come by from some roots in
one step after the other is in reach of them (`Store.Reaches`).

A store encloses a region if no step leads out of it (`Store.Encloses`). It goes on to do so when it
is changed within the region (`Store.Encloses.congr`, `Store.Encloses.write`), so what is done by
way of values in a region stays there. What is in reach of some roots is such a region
(`Store.encloses_reaches`).
-/

namespace Stencil

/-! ## What lambdas write -/

/-- A lambda may come to write a value into the mapping at an address. -/
inductive Behaviour.Writes (place : Nat) (value : Value) : Behaviour → Prop where
  | now {name next} : Writes place value (.writes place name value next)
  | later {address name other next} (writes : Writes place value next) :
      Writes place value (.writes address name other next)
  | counts {next calls} (writes : Writes place value (next calls)) :
      Writes place value (.counts next)
  | renders {text next content} (writes : Writes place value (next content)) :
      Writes place value (.renders text next)
  | tries {text next outcome} (writes : Writes place value (next outcome)) :
      Writes place value (.tries text next)
  | reads {address name next shown} (writes : Writes place value (next shown)) :
      Writes place value (.reads address name next)

/-- Values that are told apart from all others. -/
abbrev Region := Value → Prop

/-- The region of all values. -/
def Region.all : Region :=
  fun _ => True

namespace Store

variable {before after : Store} {region : Region} {address place : Nat} {value : Value}

/-- What the lambdas of a store do when they are called. -/
def behaviours (store : Store) : Array (Text → Behaviour) :=
  store.lambdas.map Lambda.behaviour

/-- The lambda at an address may come to write a value into the mapping at a place. -/
def Writes (store : Store) (address place : Nat) (value : Value) : Prop :=
  ∃ behaviour raw, store.behaviours[address]? = some behaviour ∧
    (behaviour raw).Writes place value

/-- What a lambda may come to write does not depend on how often it was called. -/
theorem Writes.congr (writes : after.Writes address place value)
    (same : after.behaviours = before.behaviours) : before.Writes address place value := by
  obtain ⟨behaviour, raw, isThere, writes⟩ := writes
  exact ⟨behaviour, raw, same ▸ isThere, writes⟩

/-- No lambda of a region writes to a mapping by itself. -/
def WritesNothing (store : Store) (region : Region) : Prop :=
  ∀ address place value, region (.lambda address) → ¬store.Writes address place value

/-- A store writes nothing if what its lambdas do is not to write. -/
theorem writesNothing_of_forall {store : Store}
    (nothing : ∀ lambda ∈ store.lambdas, ∀ raw place value,
      ¬(lambda.behaviour raw).Writes place value) : store.WritesNothing region := by
  rintro address place value - ⟨behaviour, raw, isThere, writes⟩
  rw [behaviours, Array.getElem?_map] at isThere
  obtain ⟨lambda, found, rfl⟩ := Option.map_eq_some_iff.mp isThere
  exact nothing lambda (Array.mem_of_getElem? found) raw place value writes

/-- Where no lambda writes, none does after it was called. -/
theorem WritesNothing.congr (nothing : before.WritesNothing region)
    (same : after.behaviours = before.behaviours) : after.WritesNothing region :=
  fun address place value isInside writes =>
    nothing address place value isInside (writes.congr same)

end Store

/-! ## Steps from value to value -/

/-- A value that leads nowhere: a scalar, or a function that a value brings along. -/
inductive Value.IsLeaf : Value → Prop where
  | scalar {value : Value} (isScalar : value.kind = .scalar) : IsLeaf value
  | builtIn (function : BuiltIn) : IsLeaf (.builtIn function)

/-- The cache stores scalars, and its methods do not answer with what they have. -/
theorem Cache.cases_of_member? {cache : Cache} {name : Text} {member : Member}
    (offers : cache.member? name = some member) :
    (∃ value, member = .stored value ∧ value.kind = .scalar) ∨
      member = .computed .clearsCache ∨ member = .computed .needsArguments := by
  unfold Cache.member? at offers
  split_ifs at offers <;> cases offers
  · exact .inl ⟨_, rfl, rfl⟩
  · exact .inl ⟨_, rfl, rfl⟩
  · refine .inl ⟨_, rfl, ?_⟩
    split <;> rfl
  · exact .inr (.inl rfl)
  · exact .inr (.inr rfl)

/-- The cache stores scalars. -/
theorem Cache.isScalar_of_member? {cache : Cache} {name : Text} {value : Value}
    (offers : cache.member? name = some (.stored value)) : value.kind = .scalar := by
  obtain ⟨_, ⟨⟩, isScalar⟩ | differs | differs := cases_of_member? offers
  · exact isScalar
  · cases differs
  · cases differs

/-- A mapping is not the cache. -/
theorem Value.ne_cache_of_mapping {value : Value} (isMapping : value.kind = .mapping) :
    value ≠ .cache := by
  rintro rfl
  cases isMapping

/-- What is not the cache offers the same whatever the store. -/
theorem Value.member?_of_ne_cache {store other : Store} {value : Value} (notCache : value ≠ .cache)
    (name : Text) : value.member? other name = value.member? store name := by
  cases value with
  | cache => exact absurd rfl notCache
  | _ => rfl

/-- What is not the cache holds the same in stores with the same mappings. -/
theorem Value.holding?_of_ne_cache {store other : Store} {value : Value}
    (sameMappings : other.mappings = store.mappings) (notCache : value ≠ .cache) (name : Text) :
    value.holding? other name = value.holding? store name := by
  cases value with
  | cache => exact absurd rfl notCache
  | mapping address => simp [Value.holding?, Store.entries, sameMappings]
  | _ => rfl

namespace Store

/-- A value leads to another one in one step. What an object stores counts even under a private
name, since its methods can answer with it. -/
inductive Offers (store : Store) : Value → Value → Prop where
  | item {sequence items value} (hasItems : sequence.items? = some items) (isItem : value ∈ items) :
      Offers store sequence value
  | held {holder name value} (holds : holder.holding? store name = some (.stored value)) :
      Offers store holder value
  | stored {object name value} (stores : object.member? store name = some (.stored value)) :
      Offers store object value
  | answer {object name value}
      (answers : object.member? store name = some (.computed (.returns value))) :
      Offers store object value
  | written {address place value} (writes : store.Writes address place value) :
      Offers store (.lambda address) value
  | place {address place value} (writes : store.Writes address place value) :
      Offers store (.lambda address) (.mapping place)

/-- What can be come by from some roots in one step after the other. Leaves can be come by
anyway. -/
inductive Reaches (store : Store) (roots : List Value) : Value → Prop where
  | leaf {value} (isLeaf : value.IsLeaf) : Reaches store roots value
  | root {value} (isRoot : value ∈ roots) : Reaches store roots value
  | step {holder value} (reached : Reaches store roots holder)
      (offers : store.Offers holder value) : Reaches store roots value

variable {before after store : Store} {region : Region} {roots : List Value}
  {holder value : Value}

/-- In stores with the same mappings and lambdas the same steps lead to what is no leaf. -/
theorem Offers.congr (offers : after.Offers holder value)
    (sameMappings : after.mappings = before.mappings)
    (sameBehaviours : after.behaviours = before.behaviours) :
    before.Offers holder value ∨ value.IsLeaf := by
  cases offers with
  | item hasItems isItem => exact .inl (.item hasItems isItem)
  | @held _ name _ holds =>
    by_cases isCache : holder = .cache
    · subst isCache
      simp only [Value.holding?, Option.ite_none_right_eq_some] at holds
      exact .inr (.scalar (Cache.isScalar_of_member? holds.2))
    · rw [Value.holding?_of_ne_cache sameMappings isCache] at holds
      exact .inl (.held holds)
  | stored stores =>
    by_cases isCache : holder = .cache
    · subst isCache
      exact .inr (.scalar (Cache.isScalar_of_member? stores))
    · rw [@Value.member?_of_ne_cache before _ _ isCache] at stores
      exact .inl (.stored stores)
  | answer answers =>
    by_cases isCache : holder = .cache
    · subst isCache
      obtain ⟨_, differs, -⟩ | differs | differs := Cache.cases_of_member? answers <;> cases differs
    · rw [@Value.member?_of_ne_cache before _ _ isCache] at answers
      exact .inl (.answer answers)
  | written writes => exact .inl (.written (writes.congr sameBehaviours))
  | place writes => exact .inl (.place (writes.congr sameBehaviours))

/-- A leaf leads nowhere. -/
theorem not_offers_of_isLeaf (isLeaf : holder.IsLeaf) : ¬store.Offers holder value := by
  intro offers
  cases isLeaf with
  | scalar isScalar =>
    cases holder with
    | null | bool | int | float | complex | text | bytes =>
      cases offers with
      | item hasItems => cases hasItems
      | held holds => cases holds
      | stored stores => cases stores
      | answer answers => cases answers
    | object members shown truth role => cases role <;> cases isScalar
    | _ => cases isScalar
  | builtIn function =>
    cases offers with
    | item hasItems => cases hasItems
    | held holds => cases holds
    | stored stores => cases stores
    | answer answers => cases answers

/-! ## Regions and reach -/

/-- No step leads out of a region, which has all leaves. -/
structure Encloses (store : Store) (region : Region) : Prop where
  leaf : ∀ value : Value, value.IsLeaf → region value
  step : ∀ holder value, region holder → store.Offers holder value → region value

/-- No step leads out of the region of all values. -/
theorem encloses_all (store : Store) : store.Encloses .all :=
  ⟨fun _ _ => trivial, fun _ _ _ _ => trivial⟩

/-- A region goes on to be enclosed where the mappings and the lambdas stay. -/
theorem Encloses.congr (encloses : before.Encloses region)
    (sameMappings : after.mappings = before.mappings)
    (sameBehaviours : after.behaviours = before.behaviours) : after.Encloses region where
  leaf := encloses.leaf
  step holder value isInside offers := by
    obtain offers | isLeaf := offers.congr sameMappings sameBehaviours
    · exact encloses.step holder value isInside offers
    · exact encloses.leaf value isLeaf

/-- What is found in a mapping after a value was written is the value, or was found before. -/
theorem lookup_of_write {address other : Nat} {name otherName : Text} {written found : Value}
    (holds : ((store.write address name written).entries other).lookup (.text otherName) =
      some found) :
    found = written ∨ (store.entries other).lookup (.text otherName) = some found := by
  have modified : (store.write address name written).entries other =
      if address = other ∧ other < store.mappings.size then
        (store.entries other).put (.text name) written
      else store.entries other := by
    by_cases same : address = other
    · subst same
      by_cases isThere : address < store.mappings.size
      · simp [write, entries, Array.getD_eq_getD_getElem?, Array.getElem_modify, isThere]
      · simp [write, entries, isThere]
    · simp [write, entries, Array.getD_eq_getD_getElem?, Array.getElem?_modify, same]
  rw [modified] at holds
  split at holds
  · rw [Entries.lookup_put] at holds
    split at holds
    · exact .inl (Option.some.inj holds).symm
    · exact .inr holds
  · exact .inr holds

/-- What is written does not change what is offered. -/
theorem member?_write (address : Nat) (name otherName : Text) (written holder : Value) :
    holder.member? (store.write address name written) otherName =
      holder.member? store otherName := by
  cases holder <;> rfl

/-- A region goes on to be enclosed where one of its values is written. -/
theorem Encloses.write (encloses : store.Encloses region) {written : Value}
    (isInside : region written) (address : Nat) (name : Text) :
    (store.write address name written).Encloses region where
  leaf := encloses.leaf
  step holder value holderInside offers := by
    have stays (offers : store.Offers holder value) : region value :=
      encloses.step holder value holderInside offers
    cases offers with
    | item hasItems isItem => exact stays (.item hasItems isItem)
    | held holds =>
      cases holder with
      | mapping other =>
        obtain ⟨found, held, same⟩ := Option.map_eq_some_iff.mp holds
        cases same
        obtain rfl | held := lookup_of_write held
        · exact isInside
        · exact stays (.held (Option.map_eq_some_iff.mpr ⟨value, held, rfl⟩))
      | _ => exact stays (.held holds)
    | stored stores => exact stays (.stored (member?_write .. ▸ stores))
    | answer answers => exact stays (.answer (member?_write .. ▸ answers))
    | written writes => exact stays (.written writes)
    | place writes => exact stays (.place writes)

/-- No step leads out of what is in reach. -/
theorem encloses_reaches (store : Store) (roots : List Value) :
    store.Encloses (store.Reaches roots) :=
  ⟨fun _ => .leaf, fun _ _ => .step⟩

end Store

end Stencil
