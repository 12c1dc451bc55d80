import Stencil.Context
import Stencil.Proofs.Value.Reach
import Stencil.Proofs.Template.Outline
import Stencil.Value.Display
import Stencil.Value.Truth
import Stencil.View.Source

/-!
# Where names lead

From some roots, names lead to the items of sequences and to what is held under them
(`Store.LeadsTo`). What is come by in this way can make use of the cache: a lambda, whose answer is
parsed; the cache itself; and a method that renders a view or clears the cache. Where nothing does
(`Store.ShunsCache`), what names lead to is decided by the mappings alone
(`Store.ShunsCache.leadsTo`), and none of it is shown, taken for true or looked into in a way that
depends on the cache.
-/

namespace Stencil

/-- The names that are looked up for nodes. -/
def Node.names : List Node → List Text :=
  gatherAll fun
    | .interpolation name _ => [name]
    | .block name _ _ _ _ => [name]
    | _ => []

/-- A method that makes use of the cache. -/
def Method.usesCache : Method → Bool
  | .ofView .render => true
  | .clearsCache => true
  | _ => false

/-- Where a view stores what its file is to be called. -/
def View.filePlaces : List String :=
  ["template_file_name", "template_file", "template_namespace"]

/-- The value of a member that is there without anything being rendered: what a holder stores, what
a method answers with, or what the holder stores where a method goes to look. -/
def Member.given? (store : Store) (holder : Value) : Member → Option Value
  | .stored value => some value
  | .computed (.returns value) => some value
  | .computed (.own name) => match holder.member? store name with
    | some (.stored value) => some value
    | _ => none
  | _ => none

namespace Store

/-- What can be come by from some roots under some names: the items of a sequence, what is held
under one of the names or given by a method there, and what a view stores about its file if one of
its own methods is held under such a name. Texts can be come by anyway. -/
inductive LeadsTo (store : Store) (names : List Text) (roots : List Value) : Value → Prop where
  | text (content : Text) : LeadsTo store names roots (.text content)
  | root {value} (isRoot : value ∈ roots) : LeadsTo store names roots value
  | item {sequence items value} (reached : LeadsTo store names roots sequence)
      (hasItems : sequence.items? = some items) (isItem : value ∈ items) :
      LeadsTo store names roots value
  | held {holder name member value} (reached : LeadsTo store names roots holder)
      (isNamed : name ∈ names) (holds : holder.holding? store name = some member)
      (gives : member.given? store holder = some value) : LeadsTo store names roots value
  | file {view name method place value} (reached : LeadsTo store names roots view)
      (isNamed : name ∈ names)
      (holds : view.holding? store name = some (.computed (.ofView method)))
      (isPlace : place ∈ View.filePlaces)
      (stores : view.member? store (.of place) = some (.stored value)) :
      LeadsTo store names roots value

/-- Nothing that names lead to from some roots makes use of the cache. -/
structure ShunsCache (store : Store) (names : List Text) (roots : List Value) : Prop where
  notLambda : ∀ value, store.LeadsTo names roots value → value.kind ≠ .lambda
  notCache : ∀ value, store.LeadsTo names roots value → value ≠ .cache
  notUsed : ∀ holder name method, store.LeadsTo names roots holder → name ∈ names →
    holder.holding? store name = some (.computed method) → method.usesCache = false

end Store

section Congr

variable {store other : Store} {names : List Text} {roots further : List Value} {value : Value}

/-- What is not the cache gives the same whatever the store. -/
theorem Member.given?_of_ne_cache {holder : Value} (notCache : holder ≠ .cache) (member : Member) :
    member.given? other holder = member.given? store holder := by
  unfold given?
  split
  · rfl
  · rfl
  · rw [Value.member?_of_ne_cache notCache]
  · rfl

/-- The cache gives nothing but numbers. -/
theorem Cache.isScalar_of_given? {cache : Cache} {name : Text} {member : Member}
    (offers : cache.member? name = some member)
    (gives : member.given? store .cache = some value) : value.kind = .scalar := by
  obtain ⟨_, rfl, isScalar⟩ | rfl | rfl := cases_of_member? offers
  · cases gives
    exact isScalar
  · cases gives
  · cases gives

/-- What is not the cache is as true whatever the cache holds. -/
theorem Value.truth_of_ne_cache (notCache : value ≠ .cache) (cache : Cache) :
    value.truth { store with cache } = value.truth store := by
  cases value with
  | cache => exact absurd rfl notCache
  | _ => rfl

/-- How what values refer to is shown does not depend on the cache. -/
theorem Value.references_of_cache (cache : Cache) (depth : Nat) :
    Value.references { store with cache } depth = Value.references store depth := by
  induction depth with
  | zero => rfl
  | succ depth inductionHypothesis =>
    rw [Value.references, Value.references, inductionHypothesis]
    rfl

/-- How a value is shown does not depend on the cache. -/
theorem Value.describe_of_cache (value : Value) (cache : Cache) :
    value.describe { store with cache } = value.describe store :=
  congrArg (Value.describeWith · value) (Value.references_of_cache cache _)

/-- What is output for a value does not depend on the cache. -/
theorem Value.display_of_cache (value : Value) (cache : Cache) :
    value.display { store with cache } = value.display store := by
  have same := @Value.describe_of_cache store value cache
  cases value with
  | frozen entries =>
    exact congrArg (fun references => bracketed '\x7b' '\x7d'
      (describeEntriesWith references entries)) (Value.references_of_cache cache _)
  | null => rfl
  | text => rfl
  | date => rfl
  | _ => exact same

namespace Store

/-- More can be come by from more roots and under more names. -/
theorem LeadsTo.mono {more : List Text} (leads : store.LeadsTo names roots value)
    (reached : ∀ root ∈ roots, store.LeadsTo more further root) (subset : names ⊆ more) :
    store.LeadsTo more further value := by
  induction leads with
  | text content => exact .text content
  | root isRoot => exact reached _ isRoot
  | item _ hasItems isItem inductionHypothesis => exact .item inductionHypothesis hasItems isItem
  | held _ isNamed holds gives inductionHypothesis =>
    exact .held inductionHypothesis (subset isNamed) holds gives
  | file _ isNamed holds isPlace stores inductionHypothesis =>
    exact .file inductionHypothesis (subset isNamed) holds isPlace stores

/-- Where nothing makes use of the cache, nothing does from fewer roots and under fewer names. -/
theorem ShunsCache.mono {more : List Text} (shuns : store.ShunsCache more further)
    (reached : ∀ root ∈ roots, store.LeadsTo more further root) (subset : names ⊆ more) :
    store.ShunsCache names roots where
  notLambda value leads := shuns.notLambda value (leads.mono reached subset)
  notCache value leads := shuns.notCache value (leads.mono reached subset)
  notUsed holder name method leads isNamed :=
    shuns.notUsed holder name method (leads.mono reached subset) (subset isNamed)

/-- Where nothing makes use of the cache, nothing does with one more root that can be come by. -/
theorem ShunsCache.cons (shuns : store.ShunsCache names roots)
    (leads : store.LeadsTo names roots value) : store.ShunsCache names (value :: roots) := by
  refine shuns.mono (fun root isRoot => ?_) (List.Subset.refl names)
  rcases List.mem_cons.mp isRoot with rfl | isRoot
  · exact leads
  · exact .root isRoot

/-- Where nothing makes use of the cache, only the mappings decide what names lead to. -/
theorem ShunsCache.leadsTo (shuns : store.ShunsCache names roots)
    (sameMappings : other.mappings = store.mappings)
    (leads : other.LeadsTo names roots value) : store.LeadsTo names roots value := by
  induction leads with
  | text content => exact .text content
  | root isRoot => exact .root isRoot
  | item _ hasItems isItem inductionHypothesis => exact .item inductionHypothesis hasItems isItem
  | held _ isNamed holds gives inductionHypothesis =>
    have notCache := shuns.notCache _ inductionHypothesis
    rw [Value.holding?_of_ne_cache sameMappings notCache] at holds
    rw [Member.given?_of_ne_cache notCache] at gives
    exact .held inductionHypothesis isNamed holds gives
  | file _ isNamed holds isPlace stores inductionHypothesis =>
    have notCache := shuns.notCache _ inductionHypothesis
    rw [Value.holding?_of_ne_cache sameMappings notCache] at holds
    rw [Value.member?_of_ne_cache notCache] at stores
    exact .file inductionHypothesis isNamed holds isPlace stores

/-- Where nothing makes use of the cache, nothing does in a store with the same mappings. -/
theorem ShunsCache.congr (shuns : store.ShunsCache names roots)
    (sameMappings : other.mappings = store.mappings) : other.ShunsCache names roots where
  notLambda value leads := shuns.notLambda value (shuns.leadsTo sameMappings leads)
  notCache value leads := shuns.notCache value (shuns.leadsTo sameMappings leads)
  notUsed holder name method leads isNamed holds := by
    have leads := shuns.leadsTo sameMappings leads
    rw [Value.holding?_of_ne_cache sameMappings (shuns.notCache holder leads)] at holds
    exact shuns.notUsed holder name method leads isNamed holds

end Store

end Congr

end Stencil
