import Stencil.Queue.Lemmas
import Stencil.Template.Node

/-!
# A cache of parsed templates

Parsed templates are kept under the delimiters and the text that they were parsed from. A cache can
have a capacity; then it keeps its entries in the order of their last use, and an entry that makes
it too large drives out the one that was not used for the longest time. Without a capacity the
order is that of insertion.

Only asking for an entry (`get`) is counted. Storing over an entry keeps the entry's place.

The entries are those of a queue (`Cache.entries`); what an operation does to them is said next to
it.
-/

namespace Stencil

/-- What a parsed template is kept under. A digest of its text is kept with it, because nearly all
keys can be told apart by that alone. -/
structure Cache.Key where
  delimiters : Delimiters
  source : Text
  digest : UInt64 := hash source
  digest_eq : digest = hash source := by rfl
  deriving Repr

/-- The key of a text with delimiters. -/
def Cache.Key.of (delimiters : Delimiters) (source : Text) : Cache.Key where
  delimiters
  source

/-- Delimiters and text make up a key. -/
theorem Cache.Key.eq_iff {first second : Cache.Key} :
    first = second ↔ first.delimiters = second.delimiters ∧ first.source = second.source := by
  constructor
  · rintro rfl
    exact ⟨rfl, rfl⟩
  · obtain ⟨_, source, _, firstDigest⟩ := first
    obtain ⟨_, _, _, secondDigest⟩ := second
    rintro ⟨rfl, rfl⟩
    cases firstDigest
    cases secondDigest
    rfl

/-- Texts are compared only if they have the same digest. -/
instance Cache.Key.decidableEq : DecidableEq Cache.Key := fun first second =>
  if sameDigest : first.digest = second.digest then
    decidable_of_iff (first.delimiters = second.delimiters ∧ first.source = second.source)
      Cache.Key.eq_iff.symm
  else .isFalse fun same => sameDigest (congrArg Cache.Key.digest same)

/-- The digest is there already, so a key is found without reading its text. -/
instance : Hashable Cache.Key :=
  ⟨fun key => mixHash (hash key.delimiters.opening) key.digest⟩

/-- Parsed templates by what they were parsed from. -/
structure Cache where
  capacity : Option Nat
  hits : Nat
  misses : Nat
  /-- The next one to be driven out comes first. -/
  queue : Queue Cache.Key (List Node)

namespace Cache

/-- A cache without entries. -/
def empty (capacity : Option Nat) : Cache :=
  ⟨capacity, 0, 0, .empty⟩

/-- A cache that keeps everything. -/
def unbounded : Cache :=
  empty none

/-- A cache with a capacity; it has to have room for an entry. -/
def bounded? (capacity : Int) : Option Cache :=
  if capacity < 1 then none else some (empty (some capacity.toNat))

/-- Why a cache cannot have a capacity, given how that capacity is shown. -/
def capacityMessage (shown : Text) : Text :=
  Text.of "max_size must be a positive integer, got " ++ shown

/-- What is kept, the next one to be driven out first. -/
def entries (cache : Cache) : Entries Key (List Node) :=
  cache.queue.toList

/-- The keys, the next one to be driven out first. -/
def keys (cache : Cache) : List Key :=
  cache.entries.map Prod.fst

/-- No two entries have the same key. -/
theorem nodup_keys (cache : Cache) : cache.keys.Nodup :=
  cache.queue.nodup_keys

/-- The number of entries. -/
def size (cache : Cache) : Nat :=
  cache.queue.size

/-- The entries are counted one by one. -/
theorem size_eq (cache : Cache) : cache.size = cache.entries.length :=
  cache.queue.length_toList.symm

/-- The nodes kept under a key. -/
def find? (cache : Cache) (key : Key) : Option (List Node) :=
  cache.queue.find? key

/-- The nodes kept under a key are those of its entry. -/
theorem find?_eq (cache : Cache) (key : Key) : cache.find? key = cache.entries.lookup key :=
  cache.queue.find?_eq key

/-- Whether there is an entry under a key. -/
def contains (cache : Cache) (key : Key) : Bool :=
  (cache.find? key).isSome

/-- One more question that the cache could not answer. -/
def miss (cache : Cache) : Cache :=
  { cache with misses := cache.misses + 1 }

/-- One more question that the cache could answer with the entry under a key. In a cache with a
capacity the entry counts as used. -/
def hit (cache : Cache) (key : Key) : Cache :=
  { cache with
    hits := cache.hits + 1
    queue := if cache.capacity.isSome then cache.queue.moveToEnd key else cache.queue }

/-- An entry that is used comes last if there is a capacity, and stays where it is if not. -/
theorem entries_hit {cache : Cache} {key : Key} {nodes : List Node}
    (isThere : cache.find? key = some nodes) :
    (cache.hit key).entries =
      if cache.capacity.isSome then cache.entries.remove key ++ [(key, nodes)]
      else cache.entries := by
  unfold hit entries
  split
  · exact cache.queue.toList_moveToEnd isThere
  · rfl

/-- Asks for the nodes under a key. -/
def get (cache : Cache) (key : Key) : Option (List Node) × Cache :=
  match cache.find? key with
  | none => (none, cache.miss)
  | some nodes => (some nodes, cache.hit key)

/-- How many entries are more than the capacity allows. -/
def excess (cache : Cache) : Nat :=
  match cache.capacity with
  | none => 0
  | some capacity => cache.size - capacity

/-- Drives out what is more than the capacity allows; the keys driven out come with the result. -/
def trim (cache : Cache) : List Key × Cache :=
  let (excess, queue) := cache.queue.takeFirst cache.excess
  (excess.map Prod.fst, { cache with queue })

/-- The first entries are driven out. -/
theorem entries_trim (cache : Cache) : cache.trim.2.entries = cache.entries.drop cache.excess :=
  (cache.queue.takeFirst_eq cache.excess).2

/-- The keys that are driven out are those of the first entries. -/
theorem trim_keys (cache : Cache) : cache.trim.1 = cache.keys.take cache.excess := by
  simp only [trim, (cache.queue.takeFirst_eq cache.excess).1, keys, entries, List.map_take]

/-- A cache with nodes stored under a key, whatever was there before. -/
def store (cache : Cache) (key : Key) (nodes : List Node) : Cache :=
  { cache with queue := cache.queue.put key nodes }

/-- Storing over an entry keeps its place; a new entry comes last. -/
theorem entries_store (cache : Cache) (key : Key) (nodes : List Node) :
    (cache.store key nodes).entries = cache.entries.put key nodes :=
  cache.queue.toList_put key nodes

/-- Stores nodes under a key, and drives out what is then too much. -/
def put (cache : Cache) (key : Key) (nodes : List Node) : List Key × Cache :=
  (cache.store key nodes).trim

/-- Stores nodes under a key unless there are some; the nodes that are there now come first. -/
def putIfAbsent (cache : Cache) (key : Key) (nodes : List Node) :
    List Node × List Key × Cache :=
  match cache.find? key with
  | some present => (present, cache.trim)
  | none => (nodes, cache.put key nodes)

/-- Forgets the entries and the counts. -/
def clear (cache : Cache) : Cache :=
  empty cache.capacity

end Cache

end Stencil
