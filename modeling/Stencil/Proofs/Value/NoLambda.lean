import Stencil.Proofs.Render.Confined
import Stencil.Proofs.Render.Lookup
import Stencil.Proofs.Value.Face
import Stencil.Proofs.Value.Lead

/-!
# Data without lambdas

Dates, durations, sets and classes bring functions along, and these are lambdas when they are come
by. Apart from them there may be no lambda to which names lead from some roots, and no mapping that
holds one (`Store.LeadsToNoLambda`). Then what confined deeds leave behind is the same as before as
far as names lead (`Store.LeadsToNoLambda.holding?_eq`), and there are still no lambdas
(`Store.LeadsToNoLambda.preserved`), as long as none writes by itself that can be come by otherwise
(`Store.HoldsNoLambda`).
-/

namespace Stencil

/-- A mapping holds what it stores, and computes nothing. -/
theorem Value.exists_stored_of_mapping {store : Store} {name : Text} {value : Value}
    {member : Member} (isMapping : value.kind = .mapping)
    (holds : value.holding? store name = some member) : ∃ stored, member = .stored stored := by
  cases value with
  | mapping address =>
    obtain ⟨stored, -, rfl⟩ := Option.map_eq_some_iff.mp holds
    exact ⟨stored, rfl⟩
  | frozen entries =>
    obtain ⟨stored, -, rfl⟩ := Option.map_eq_some_iff.mp holds
    exact ⟨stored, rfl⟩
  | object members shown truth role => cases role <;> cases isMapping
  | _ => cases isMapping

/-- Whatever deeds made of the entries, they hold the same under a name, unless it was a lambda. -/
theorem Deed.Leaves.lookup_eq {deeds : List Deed} {address : Nat} {old new : Entries Key Value}
    (leaves : List.Forall₂ (Leaves deeds address) old new) {name : Text}
    (notLambda : ∀ value, old.lookup (.text name) = some value → value.kind ≠ .lambda) :
    new.lookup (.text name) = old.lookup (.text name) := by
  induction leaves with
  | nil => rfl
  | @cons first _ _ _ head _ inductionHypothesis =>
    obtain ⟨key, kept⟩ := first
    cases head with
    | asItWas =>
      simp only [List.lookup_cons] at notLambda ⊢
      split
      · rfl
      · rename_i apart
        rw [apart] at notLambda
        exact inductionHypothesis notLambda
    | asText isLambda _ =>
      simp only [List.lookup_cons] at notLambda ⊢
      split
      · rename_i same
        rw [same] at notLambda
        exact absurd isLambda (notLambda kept rfl)
      · rename_i apart
        rw [apart] at notLambda
        exact inductionHypothesis notLambda

namespace Store

variable {before after store : Store} {names : List Text} {roots : List Value}
  {holder value : Value} {name : Text}

/-- Whatever confined deeds were done, what is not the cache holds the same under a name, unless it
is a mapping and held a lambda. -/
theorem Confined.holding?_eq {deeds : List Deed} (confined : before.Confined deeds after)
    (notWrote : ∀ address, .wrote address ∉ deeds) (notCache : holder ≠ .cache)
    (notLambda : ∀ value, holder.kind = .mapping →
      holder.holding? before name = some (.stored value) → value.kind ≠ .lambda) :
    holder.holding? after name = holder.holding? before name := by
  cases holder with
  | mapping address =>
    have same : (after.entries address).lookup (.text name) =
        (before.entries address).lookup (.text name) :=
      Deed.Leaves.lookup_eq (confined.entries address (notWrote address))
        fun value held => notLambda value rfl (by simp [Value.holding?, held])
    simp [Value.holding?, same]
  | cache => exact absurd rfl notCache
  | _ => rfl

/-- Names lead to no lambda from some roots. Functions that built-in values bring along do not count
as such, unless they were put into a mapping. -/
structure LeadsToNoLambda (store : Store) (names : List Text) (roots : List Value) : Prop where
  isBuiltIn : ∀ value, store.LeadsTo names roots value → value.kind = .lambda →
    ∃ function, value = .builtIn function
  notHeld : ∀ holder name value, store.LeadsTo names roots holder → holder.kind = .mapping →
    name ∈ names → holder.holding? store name = some (.stored value) → value.kind ≠ .lambda

/-- Names lead to no lambda from some roots, and what else can be come by does not write. This is
the case, whatever the names, where the roots contain no lambda at any depth, neither stored nor as
what a method answers. -/
structure HoldsNoLambda (store : Store) (names : List Text) (roots : List Value) : Prop
    extends store.LeadsToNoLambda names roots where
  writesNothing : store.WritesNothing (store.Reaches roots)

/-- What can be come by where names lead, or by computing what is computed there: further scalars,
and functions that built-in values bring along. -/
inductive ComesBy (store : Store) (names : List Text) (roots : List Value) (value : Value) :
    Prop where
  | leads (leads : store.LeadsTo names roots value)
  | scalar (isScalar : value.kind = .scalar)
  | builtIn (function : BuiltIn) (isBuiltIn : value = .builtIn function)

/-- Names lead nowhere out of a region. -/
theorem LeadsTo.isInside {region : Region} (leads : store.LeadsTo names roots value)
    (encloses : store.Encloses region) (rootsInside : ∀ root ∈ roots, region root) :
    region value := by
  induction leads with
  | text content => exact encloses.leaf _ (.scalar rfl)
  | root isRoot => exact rootsInside _ isRoot
  | item _ hasItems isItem isInside =>
    exact encloses.step _ _ isInside (.item hasItems isItem)
  | @held holder name member value _ _ holds gives isInside =>
    cases member with
    | stored kept =>
      cases gives
      exact encloses.step _ _ isInside (.held holds)
    | computed method =>
      have offers := Render.member?_of_holding? holds
      cases method with
      | returns answer =>
        cases gives
        exact encloses.step _ _ isInside (.answer offers)
      | own other =>
        simp only [Member.given?] at gives
        split at gives
        · rename_i stores
          cases gives
          exact encloses.step _ _ isInside (.stored stores)
        · cases gives
      | _ => cases gives
  | file _ _ _ _ stores isInside => exact encloses.step _ _ isInside (.stored stores)

/-- What can be come by is in a region that has the roots. -/
theorem ComesBy.isInside {region : Region} (comesBy : store.ComesBy names roots value)
    (encloses : store.Encloses region) (rootsInside : ∀ root ∈ roots, region root) :
    region value := by
  cases comesBy with
  | leads leads => exact leads.isInside encloses rootsInside
  | scalar isScalar => exact encloses.leaf _ (.scalar isScalar)
  | builtIn function isBuiltIn =>
    subst isBuiltIn
    exact encloses.leaf _ (.builtIn function)

/-- What can be come by and holds something, in whatever store, is where names lead. -/
theorem ComesBy.leadsTo {other : Store} {member : Member}
    (comesBy : store.ComesBy names roots holder)
    (holds : holder.holding? other name = some member) : store.LeadsTo names roots holder := by
  cases comesBy with
  | leads leads => exact leads
  | scalar isScalar =>
    rw [Value.holding?_of_scalar isScalar] at holds
    cases holds
  | builtIn function isBuiltIn =>
    subst isBuiltIn
    cases holds

/-- The items of what can be come by can be come by. -/
theorem ComesBy.item {items : List Value} (comesBy : store.ComesBy names roots holder)
    (hasItems : holder.items? = some items) (isItem : value ∈ items) :
    store.ComesBy names roots value := by
  cases comesBy with
  | leads leads => exact .leads (.item leads hasItems isItem)
  | scalar isScalar =>
    rw [Value.items?_of_scalar isScalar] at hasItems
    cases hasItems
  | builtIn function isBuiltIn =>
    subst isBuiltIn
    cases hasItems

/-- Where there are no lambdas, those that can be come by are functions of built-in values. -/
theorem LeadsToNoLambda.exists_builtIn (noLambda : store.LeadsToNoLambda names roots)
    (comesBy : store.ComesBy names roots value) (isLambda : value.kind = .lambda) :
    ∃ function, value = .builtIn function := by
  cases comesBy with
  | leads leads => exact noLambda.isBuiltIn value leads isLambda
  | scalar isScalar =>
    rw [isScalar] at isLambda
    cases isLambda
  | builtIn function isBuiltIn => exact ⟨function, isBuiltIn⟩

/-- The cache has no methods of a view. -/
theorem cache_holding?_ne_ofView {method : ViewMethod} :
    Value.cache.holding? store name ≠ some (.computed (.ofView method)) := by
  intro holds
  simp only [Value.holding?, Option.ite_none_right_eq_some] at holds
  have offered : store.cache.member? name = some (.computed (.ofView method)) := holds.2
  unfold Cache.member? at offered
  split_ifs at offered <;> cases offered

/-- Where names lead in one store can be come by in another one that holds the same where names lead
in both, the cache apart. -/
theorem LeadsTo.comesBy {first second : Store}
    (agree : ∀ holder name, first.LeadsTo names roots holder → second.LeadsTo names roots holder →
      name ∈ names → holder ≠ .cache → holder.holding? second name = holder.holding? first name)
    (leads : first.LeadsTo names roots value) : second.ComesBy names roots value := by
  induction leads with
  | text content => exact .leads (.text content)
  | root isRoot => exact .leads (.root isRoot)
  | item _ hasItems isItem inductionHypothesis => exact inductionHypothesis.item hasItems isItem
  | @held holder name member value reached isNamed holds gives inductionHypothesis =>
    by_cases isCache : holder = .cache
    · subst isCache
      simp only [Value.holding?, Option.ite_none_right_eq_some] at holds
      exact .scalar (Cache.isScalar_of_given? holds.2 gives)
    · have alsoLeads := inductionHypothesis.leadsTo holds
      rw [← agree holder name reached alsoLeads isNamed isCache] at holds
      rw [← Member.given?_of_ne_cache isCache] at gives
      exact .leads (.held alsoLeads isNamed holds gives)
  | @file view name method place value reached isNamed holds isPlace stores inductionHypothesis =>
    have notCache : view ≠ .cache := by
      rintro rfl
      exact cache_holding?_ne_ofView holds
    have alsoLeads := inductionHypothesis.leadsTo holds
    rw [← agree view name reached alsoLeads isNamed notCache] at holds
    rw [← Value.member?_of_ne_cache notCache] at stores
    exact .leads (.file alsoLeads isNamed holds isPlace stores)

section Confined

variable {deeds : List Deed} (noLambda : before.LeadsToNoLambda names roots)
  (confined : before.Confined deeds after) (notWrote : ∀ address, .wrote address ∉ deeds)

include noLambda confined notWrote

/-- Confined deeds leave in the mappings what was there, as far as names lead. -/
theorem LeadsToNoLambda.holding?_eq (leads : before.LeadsTo names roots holder)
    (isNamed : name ∈ names) (notCache : holder ≠ .cache) :
    holder.holding? after name = holder.holding? before name :=
  confined.holding?_eq notWrote notCache fun value isMapping =>
    noLambda.notHeld holder name value leads isMapping isNamed

/-- Confined deeds do not change what can be come by. -/
theorem LeadsToNoLambda.comesBy_iff :
    after.ComesBy names roots value ↔ before.ComesBy names roots value := by
  constructor
  · rintro (leads | isScalar | ⟨function, isBuiltIn⟩)
    · exact leads.comesBy fun holder name _ leads isNamed notCache =>
        (noLambda.holding?_eq confined notWrote leads isNamed notCache).symm
    · exact .scalar isScalar
    · exact .builtIn function isBuiltIn
  · rintro (leads | isScalar | ⟨function, isBuiltIn⟩)
    · exact leads.comesBy fun holder name leads _ => noLambda.holding?_eq confined notWrote leads
    · exact .scalar isScalar
    · exact .builtIn function isBuiltIn

/-- Confined deeds bring in no lambdas. -/
theorem LeadsToNoLambda.preserved : after.LeadsToNoLambda names roots where
  isBuiltIn value leads := noLambda.exists_builtIn
    ((noLambda.comesBy_iff confined notWrote).mp (.leads leads))
  notHeld holder name value leads isMapping isNamed holds := by
    have ledBefore : before.LeadsTo names roots holder :=
      ((noLambda.comesBy_iff confined notWrote).mp (.leads leads)).leadsTo holds
    rw [noLambda.holding?_eq confined notWrote ledBefore isNamed
      (Value.ne_cache_of_mapping isMapping)] at holds
    exact noLambda.notHeld holder name value ledBefore isMapping isNamed holds

end Confined

end Store

end Stencil
