import Std.Data.HashMap.Lemmas
import Std.Data.TreeMap.Lemmas
import Stencil.Entries

/-!
# Queues of entries

A queue keeps entries in an order and finds them by their keys. An entry comes in at the end and
keeps its place when its value changes; it can be moved to the end, and the first one can be taken
away. Every entry has a number, which is larger the later it came to the end, so none of this needs
a search.

`Queue.toList` is what a queue holds, and all operations are described by what they do to it.
-/

namespace Stencil

/-- Entries in an order, to be found by their keys. -/
structure Queue (Key Content : Type) [BEq Key] [Hashable Key] where
  /-- The number of the next entry that comes to the end. -/
  next : Nat
  slots : Std.TreeMap Nat (Key × Content)
  /-- The numbers of the entries by their keys. -/
  numbers : Std.HashMap Key Nat
  lt_next : ∀ {number : Nat} {entry : Key × Content}, slots[number]? = some entry → number < next
  numbers_eq : ∀ {key : Key} {number : Nat},
    numbers[key]? = some number ↔ ∃ content, slots[number]? = some (key, content)

namespace Queue

variable {Key Content : Type} [BEq Key] [Hashable Key]

/-- The entries of a queue, the first one first. -/
def toList (queue : Queue Key Content) : Entries Key Content :=
  queue.slots.toList.map Prod.snd

/-- The number of entries. -/
def size (queue : Queue Key Content) : Nat :=
  queue.slots.size

/-- What a queue holds under a key. -/
def find? (queue : Queue Key Content) (key : Key) : Option Content :=
  queue.numbers[key]?.bind fun number => queue.slots[number]?.map Prod.snd

variable [LawfulBEq Key]

/-- A queue without entries. -/
def empty : Queue Key Content where
  next := 0
  slots := ∅
  numbers := ∅
  lt_next := by simp
  numbers_eq := by simp

/-- A queue with another value under the key of an entry, by the number of the entry. -/
def change (queue : Queue Key Content) (number : Nat) (key : Key) (content : Content)
    (isThere : queue.numbers[key]? = some number) : Queue Key Content :=
  { queue with
    slots := queue.slots.insert number (key, content)
    lt_next := fun {other entry} found => by
      obtain ⟨old, oldFound⟩ := queue.numbers_eq.mp isThere
      rw [Std.TreeMap.getElem?_insert] at found
      split at found
      · rename_i same
        simp only [Nat.compare_eq_eq] at same
        exact same ▸ queue.lt_next oldFound
      · exact queue.lt_next found
    numbers_eq := fun {other otherNumber} => by
      obtain ⟨old, oldFound⟩ := queue.numbers_eq.mp isThere
      rw [queue.numbers_eq, Std.TreeMap.getElem?_insert]
      by_cases same : number = otherNumber
      · subst same
        simp [oldFound]
      · simp [same] }

/-- A queue without the entry of a number. -/
def without (queue : Queue Key Content) (number : Nat) (key : Key)
    (isThere : queue.numbers[key]? = some number) : Queue Key Content :=
  { queue with
    slots := queue.slots.erase number
    numbers := queue.numbers.erase key
    lt_next := fun {other entry} found => by
      rw [Std.TreeMap.getElem?_erase] at found
      split at found
      · simp at found
      · exact queue.lt_next found
    numbers_eq := fun {other otherNumber} => by
      obtain ⟨old, oldFound⟩ := queue.numbers_eq.mp isThere
      rw [Std.HashMap.getElem?_erase, Std.TreeMap.getElem?_erase]
      by_cases sameKey : key = other
      · subst sameKey
        by_cases same : number = otherNumber
        · simp [same]
        · simp only [beq_self_eq_true, if_true, reduceCtorEq, false_iff, Nat.compare_eq_eq, same,
            if_false]
          rintro ⟨content, found⟩
          have again := queue.numbers_eq.mpr ⟨content, found⟩
          exact same (Option.some.inj (isThere.symm.trans again))
      · by_cases same : number = otherNumber
        · subst same
          have different : (key == other) = false := by simpa using sameKey
          simp only [different, Nat.compare_eq_eq, if_true, reduceCtorEq, exists_false, iff_false,
            Bool.false_eq_true, if_false]
          intro found
          obtain ⟨content, there⟩ := queue.numbers_eq.mp found
          exact sameKey (congrArg Prod.fst (Option.some.inj (oldFound.symm.trans there)))
        · simp [sameKey, same, queue.numbers_eq] }

/-- A queue with one more entry at the end. -/
def append (queue : Queue Key Content) (key : Key) (content : Content)
    (isNew : queue.numbers[key]? = none) : Queue Key Content where
  next := queue.next + 1
  slots := queue.slots.insert queue.next (key, content)
  numbers := queue.numbers.insert key queue.next
  lt_next := fun {number entry} found => by
    rw [Std.TreeMap.getElem?_insert] at found
    split at found
    · rename_i same
      simp only [Nat.compare_eq_eq] at same
      omega
    · have := queue.lt_next found
      omega
  numbers_eq := fun {other number} => by
    rw [Std.HashMap.getElem?_insert, Std.TreeMap.getElem?_insert]
    by_cases sameKey : key = other
    · subst sameKey
      by_cases same : queue.next = number
      · simp [same]
      · have absent : ∀ content, queue.slots[number]? ≠ some (key, content) := fun content found =>
          by simpa [isNew] using queue.numbers_eq.mpr ⟨content, found⟩
        simp [same, absent]
    · by_cases same : queue.next = number
      · subst same
        have absent : queue.numbers[other]? ≠ some queue.next := fun found => by
          obtain ⟨content, there⟩ := queue.numbers_eq.mp found
          exact Nat.lt_irrefl _ (queue.lt_next there)
        simp [sameKey, absent]
      · simp [sameKey, same, queue.numbers_eq]

/-- A queue with a value under a key: in the place of the key, or at the end if the key is new. -/
def put (queue : Queue Key Content) (key : Key) (content : Content) : Queue Key Content :=
  match found : queue.numbers[key]? with
  | some number => queue.change number key content found
  | none => queue.append key content found

/-- A queue with the entry under a key moved to the end. -/
def moveToEnd (queue : Queue Key Content) (key : Key) : Queue Key Content :=
  match found : queue.numbers[key]? with
  | none => queue
  | some number => match queue.slots[number]? with
    | none => queue
    | some (_, content) => (queue.without number key found).append key content (by simp [without])

/-- The first entry of a queue, and the queue without it. -/
def takeFirst? (queue : Queue Key Content) : Option ((Key × Content) × Queue Key Content) :=
  match queue.slots.minKey? with
  | none => none
  | some number => match found : queue.slots[number]? with
    | none => none
    | some (key, content) =>
      some ((key, content), queue.without number key (queue.numbers_eq.mpr ⟨content, found⟩))

/-- The first entries of a queue, as many as are asked for, and the queue without them. -/
def takeFirst (queue : Queue Key Content) : Nat → Entries Key Content × Queue Key Content
  | 0 => ([], queue)
  | count + 1 => match queue.takeFirst? with
    | none => ([], queue)
    | some (entry, rest) =>
      let (entries, last) := rest.takeFirst count
      (entry :: entries, last)

end Queue

end Stencil
