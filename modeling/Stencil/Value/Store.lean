import Stencil.Cache.Basic
import Stencil.Value.Basic
import Stencil.Value.Datum

/-!
# What values refer to

The store holds the contents of mappings and sets, the lambdas with their counts of calls, and the
cache of parsed templates. Addresses are given out one after the other and stay valid: nothing is
ever removed from a store.
-/

namespace Stencil

/-- A lambda and how often it has been called. -/
structure Lambda where
  /-- What it does when it is called with a text. -/
  behaviour : Text → Behaviour
  calls : Nat

/-- What values refer to. -/
structure Store where
  mappings : Array (Entries Key Value)
  /-- The items of sets, no two of them equal. -/
  sets : Array (List Value)
  lambdas : Array Lambda
  cache : Cache

namespace Store

/-- A store with nothing but a cache. -/
def empty (cache : Cache) : Store :=
  ⟨#[], #[], #[], cache⟩

/-- The entries at an address. -/
def entries (store : Store) (address : Nat) : Entries Key Value :=
  store.mappings.getD address []

/-- The items of the set at an address. -/
def items (store : Store) (address : Nat) : List Value :=
  store.sets.getD address []

/-- A new mapping with these entries. -/
def addMapping (store : Store) (entries : Entries Key Value) : Value × Store :=
  (.mapping store.mappings.size, { store with mappings := store.mappings.push entries })

/-- A new set with these items. -/
def addSet (store : Store) (items : List Value) : Value × Store :=
  (.set store.sets.size, { store with sets := store.sets.push items })

/-- The items of the set at an address changed. -/
def changeSet (store : Store) (address : Nat) (change : List Value → List Value) : Store :=
  { store with sets := store.sets.modify address change }

/-- A new lambda that has not been called. -/
def addLambda (store : Store) (behaviour : Text → Behaviour) : Value × Store :=
  (.lambda store.lambdas.size, { store with lambdas := store.lambdas.push ⟨behaviour, 0⟩ })

/-- A value written under a name into the mapping at an address. -/
def write (store : Store) (address : Nat) (name : Text) (value : Value) : Store :=
  { store with
    mappings := store.mappings.modify address fun entries => entries.put (.text name) value }

/-- One more call of the lambda at an address. -/
def countCall (store : Store) (address : Nat) : Store :=
  { store with
    lambdas := store.lambdas.modify address fun lambda =>
      { lambda with calls := lambda.calls + 1 } }

end Store

mutual

/-- Data as a value. Each of its mappings is a new one. -/
def Datum.toValue (store : Store) : Datum → Value × Store
  | .null => (.null, store)
  | .bool value => (.bool value, store)
  | .int value => (.int value, store)
  | .float number => (.float number, store)
  | .text content => (.text content, store)
  | .date day => (.date day, store)
  | .list items =>
    let (values, store) := Datum.toValues store items
    (.list values, store)
  | .mapping entries =>
    let (contents, store) := Datum.toEntries store entries
    store.addMapping contents

/-- The items of a list as values. -/
def Datum.toValues (store : Store) : List Datum → List Value × Store
  | [] => ([], store)
  | item :: items =>
    let (value, store) := item.toValue store
    let (values, store) := Datum.toValues store items
    (value :: values, store)

/-- The entries of a mapping as values. -/
def Datum.toEntries (store : Store) : List (Key × Datum) → Entries Key Value × Store
  | [] => ([], store)
  | (key, item) :: entries =>
    let (value, store) := item.toValue store
    let (contents, store) := Datum.toEntries store entries
    ((key, value) :: contents, store)

end

end Stencil
