import Mathlib.Data.List.Forall2
import Stencil.Proofs.Value.Reach

/-!
# What rendering may do to data

Rendering leaves little behind in the data that it reads. A `Deed` is something it does that can
leave something behind at all, and `Store.Confined` says what the deeds can have left: texts in the
place of lambdas, in mappings that can be written to, and sets changed by their own functions. Where
no lambda has written by itself no entry comes, goes or moves, and all else is as it was. The cache
is not data: it is there to be changed.
-/

namespace Stencil

/-- What rendering does that can leave something behind in the data. -/
inductive Deed where
  /-- A lambda that the mapping at an address held under a name was evaluated to a text. -/
  | evaluated (address : Nat) (name : Text) (function : Value) (text : Text)
  /-- A function of the set at an address was called. -/
  | calledSet (address : Nat)
  /-- A lambda wrote to the mapping at an address by itself. -/
  | wrote (address : Nat)

/-- What deeds can have made of an entry of the mapping at an address: nothing, or a text where
there was a lambda that was evaluated to it. The key stays. -/
inductive Deed.Leaves (deeds : List Deed) (address : Nat) : Key × Value → Key × Value → Prop where
  | asItWas {entry} : Leaves deeds address entry entry
  | asText {name function text} (isLambda : function.kind = .lambda)
      (evaluated : .evaluated address name function text ∈ deeds) :
      Leaves deeds address (.text name, function) (.text name, .text text)

/-- What deeds can have made of a store. -/
structure Store.Confined (before : Store) (deeds : List Deed) (after : Store) : Prop where
  /-- A mapping holds the same entries in the same order, but for texts over lambdas, unless a
  lambda wrote to it. -/
  entries : ∀ address, .wrote address ∉ deeds →
    List.Forall₂ (Deed.Leaves deeds address) (before.entries address) (after.entries address)
  /-- A set has the same items unless a function of the set was called. -/
  items : ∀ address, .calledSet address ∉ deeds → after.items address = before.items address
  /-- The lambdas are the same but for the counts of their calls. -/
  behaviours : after.behaviours = before.behaviours
  /-- There is neither a new mapping nor one less. -/
  mappings_size : after.mappings.size = before.mappings.size
  /-- There is neither a new set nor one less. -/
  sets_size : after.sets.size = before.sets.size

variable {deeds more : List Deed} {address : Nat}

/-! ## Entries -/

namespace Deed.Leaves

/-- What some deeds can have made of an entry, more deeds can. -/
theorem mono {old new : Key × Value} (leaves : Leaves deeds address old new)
    (subset : deeds ⊆ more) : Leaves more address old new := by
  cases leaves with
  | asItWas => exact .asItWas
  | asText isLambda evaluated => exact .asText isLambda (subset evaluated)

/-- What comes of an entry comes of it by all deeds together: a text stays. -/
theorem trans {old middle new : Key × Value} (first : Leaves deeds address old middle)
    (next : Leaves more address middle new) : Leaves (deeds ++ more) address old new := by
  cases first with
  | asItWas => exact next.mono (List.subset_append_right deeds more)
  | asText isLambda evaluated =>
    cases next with
    | asItWas => exact .asText isLambda (List.mem_append_left more evaluated)
    | asText isLambda _ => cases isLambda

/-- Entries that come of those that come of others come of these. -/
theorem forall₂_trans {old middle new : Entries Key Value}
    (first : List.Forall₂ (Leaves deeds address) old middle)
    (next : List.Forall₂ (Leaves more address) middle new) :
    List.Forall₂ (Leaves (deeds ++ more) address) old new := by
  induction first generalizing new with
  | nil =>
    cases next
    exact .nil
  | cons head _ inductionHypothesis =>
    cases next with
    | cons nextHead nextTail => exact .cons (head.trans nextHead) (inductionHypothesis nextTail)

/-- The text that a lambda was evaluated to may stand in its place. -/
theorem forall₂_put {old new : Entries Key Value} {name : Text} {function : Value} {text : Text}
    (leaves : List.Forall₂ (Leaves deeds address) old new)
    (held : old.lookup (.text name) = some function) (isLambda : function.kind = .lambda)
    (evaluated : .evaluated address name function text ∈ deeds) :
    List.Forall₂ (Leaves deeds address) old (new.put (.text name) (.text text)) := by
  induction leaves with
  | nil => cases held
  | @cons oldHead newHead oldTail newTail head tail inductionHypothesis =>
    have sameKey : oldHead.1 = newHead.1 := by
      cases head <;> rfl
    obtain ⟨key, value⟩ := oldHead
    obtain ⟨_, newValue⟩ := newHead
    cases sameKey
    unfold Entries.put
    by_cases isThere : key = .text name
    · subst isThere
      simp only [List.lookup_cons, BEq.rfl, Option.some.injEq] at held ⊢
      subst held
      exact .cons (.asText isLambda evaluated) tail
    · have notFirst : (key == .text name) = false := by
        rw [Bool.eq_false_iff, ne_eq, Key.beq_text]
        exact isThere
      have notFound : ((.text name : Key) == key) = false := by
        rw [BEq.comm]
        exact notFirst
      rw [List.lookup_cons, notFound] at held
      rw [notFirst]
      exact .cons head (inductionHypothesis held)

end Deed.Leaves

namespace Store

/-- The mapping that is written to has the value under the name. -/
theorem entries_write_self {store : Store} (isThere : address < store.mappings.size) {name : Text}
    {value : Value} :
    (store.write address name value).entries address =
      (store.entries address).put (.text name) value := by
  simp [write, entries, Array.getD_eq_getD_getElem?, Array.getElem_modify, isThere]

/-- All other mappings are as they were. -/
theorem entries_write_of_ne {store : Store} {other : Nat} (apart : address ≠ other) {name : Text}
    {value : Value} : (store.write address name value).entries other = store.entries other := by
  simp [write, entries, Array.getD_eq_getD_getElem?, Array.getElem?_modify, apart]

/-- A mapping that holds something is there. -/
theorem lt_size_of_lookup {store : Store} {key : Key} {value : Value}
    (held : (store.entries address).lookup key = some value) : address < store.mappings.size := by
  by_contra beyond
  have isEmpty : store.entries address = [] := by
    simp [entries, Array.getD_eq_getD_getElem?, Array.getElem?_eq_none (Nat.le_of_not_lt beyond)]
  rw [isEmpty] at held
  cases held

end Store

namespace Store.Confined

variable {before between after : Store}

/-- What some deeds can have made of a store, more deeds can. -/
theorem mono (confined : before.Confined deeds after) (subset : deeds ⊆ more) :
    before.Confined more after where
  entries address notWrote :=
    (confined.entries address fun wrote => notWrote (subset wrote)).imp
      fun _ _ leaves => leaves.mono subset
  items address notCalled := confined.items address fun called => notCalled (subset called)
  behaviours := confined.behaviours
  mappings_size := confined.mappings_size
  sets_size := confined.sets_size

/-- What is confined to some deeds and then to others is confined to all of them. -/
theorem trans (first : before.Confined deeds between) (next : between.Confined more after) :
    before.Confined (deeds ++ more) after where
  entries address notWrote := by
    have notFirst : .wrote address ∉ deeds :=
      fun wrote => notWrote (List.mem_append_left more wrote)
    have notNext : .wrote address ∉ more :=
      fun wrote => notWrote (List.mem_append_right deeds wrote)
    exact Deed.Leaves.forall₂_trans (first.entries address notFirst) (next.entries address notNext)
  items address notCalled := by
    have notFirst : .calledSet address ∉ deeds :=
      fun called => notCalled (List.mem_append_left more called)
    have notNext : .calledSet address ∉ more :=
      fun called => notCalled (List.mem_append_right deeds called)
    exact (next.items address notNext).trans (first.items address notFirst)
  behaviours := next.behaviours.trans first.behaviours
  mappings_size := next.mappings_size.trans first.mappings_size
  sets_size := next.sets_size.trans first.sets_size

/-- Without any deed the mappings, the sets and what lambdas do are as they were. -/
theorem of_eq (mappings : after.mappings = before.mappings) (sets : after.sets = before.sets)
    (behaviours : after.behaviours = before.behaviours) :
    before.Confined [] after where
  entries address _ := by
    simp only [Store.entries, mappings]
    exact List.forall₂_same.mpr fun _ _ => .asItWas
  items address _ := by simp only [Store.items, sets]
  behaviours := behaviours
  mappings_size := by rw [mappings]
  sets_size := by rw [sets]

/-- A further call changes no lambda. -/
theorem countCall (store : Store) (address : Nat) :
    store.Confined [] (store.countCall address) := by
  refine of_eq rfl rfl ?_
  refine Array.ext (by simp [Store.behaviours, Store.countCall]) fun index _ _ => ?_
  simp only [Store.behaviours, Store.countCall, Array.getElem_map, Array.getElem_modify]
  split
  · rfl
  · rfl

/-- A set changed leaves all other sets as they were. -/
theorem changeSet (store : Store) (address : Nat) (change : List Value → List Value) :
    store.Confined [.calledSet address] (store.changeSet address change) where
  entries _ _ := List.forall₂_same.mpr fun _ _ => .asItWas
  items other notCalled := by
    have apart : address ≠ other := by
      rintro rfl
      exact notCalled (List.mem_singleton.mpr rfl)
    simp [Store.changeSet, Store.items, Array.getD_eq_getD_getElem?, Array.getElem?_modify, apart]
  behaviours := rfl
  mappings_size := rfl
  sets_size := by simp [Store.changeSet]

/-- What a lambda writes by itself leaves all other mappings as they were. -/
theorem wrote (store : Store) (address : Nat) (name : Text) (value : Value) :
    store.Confined [.wrote address] (store.write address name value) where
  entries other notWrote := by
    have apart : address ≠ other := by
      rintro rfl
      exact notWrote (List.mem_singleton.mpr rfl)
    rw [entries_write_of_ne apart]
    exact List.forall₂_same.mpr fun _ _ => .asItWas
  items _ _ := rfl
  behaviours := rfl
  mappings_size := by simp [Store.write]
  sets_size := rfl

/-- A lambda may be written over with the text that it was evaluated to. -/
theorem write (confined : before.Confined deeds after) {address : Nat} {name : Text}
    {function : Value} {text : Text}
    (held : (before.entries address).lookup (.text name) = some function)
    (isLambda : function.kind = .lambda) :
    before.Confined (deeds ++ [.evaluated address name function text])
      (after.write address name (.text text)) where
  entries other notWrote := by
    have notBefore : .wrote other ∉ deeds :=
      fun wrote => notWrote (List.mem_append_left _ wrote)
    have further : List.Forall₂
        (Deed.Leaves (deeds ++ [.evaluated address name function text]) other)
        (before.entries other) (after.entries other) :=
      (confined.entries other notBefore).imp fun _ _ leaves =>
        leaves.mono (List.subset_append_left deeds _)
    by_cases isAddress : address = other
    · subst isAddress
      rw [entries_write_self (confined.mappings_size ▸ lt_size_of_lookup held)]
      exact Deed.Leaves.forall₂_put further held isLambda (by simp)
    · rw [entries_write_of_ne isAddress]
      exact further
  items other notCalled := confined.items other fun called =>
    notCalled (List.mem_append_left _ called)
  behaviours := confined.behaviours
  mappings_size := by simpa [Store.write] using confined.mappings_size
  sets_size := confined.sets_size

end Store.Confined

end Stencil
