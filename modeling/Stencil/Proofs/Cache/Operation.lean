import Stencil.Cache.Basic

/-!
# Operations on a cache

What a cache is asked to do one after the other, and what becomes of its keys. An operation drives
keys out from the front of the keys that are present (`Cache.present`), and the others stay in their
order (`Cache.driven_append_keys`). All of this is about the keys; the nodes under them play no part
in it.
-/

namespace Stencil

/-! ## Keys of entries -/

namespace Entries

variable {Key Content : Type} [BEq Key] [LawfulBEq Key]

/-- Storing brings in a key that is new, and leaves the keys alone otherwise. -/
theorem map_fst_put [DecidableEq Key] (entries : Entries Key Content) (key : Key)
    (content : Content) :
    (put entries key content).map Prod.fst =
      if key ∈ entries.map Prod.fst then entries.map Prod.fst
      else entries.map Prod.fst ++ [key] := by
  induction entries with
  | nil => rfl
  | cons first rest inductionHypothesis =>
    obtain ⟨present, old⟩ := first
    by_cases same : present = key
    · simp [put, same]
    · have apart : ¬ key = present := fun equal => same equal.symm
      simp only [put, beq_iff_eq, same, if_false, List.map_cons, inductionHypothesis,
        List.mem_cons, apart, false_or, List.cons_append]
      split <;> rfl

/-- Removing an entry removes its key. -/
theorem map_fst_remove (entries : Entries Key Content) (key : Key) :
    (remove entries key).map Prod.fst = (entries.map Prod.fst).erase key := by
  induction entries with
  | nil => rfl
  | cons first rest inductionHypothesis =>
    obtain ⟨present, content⟩ := first
    unfold remove at inductionHypothesis ⊢
    by_cases same : present = key
    · simp [same]
    · simp [same, inductionHypothesis]

end Entries

namespace Cache

/-- An operation on a cache. -/
inductive Operation where
  | get (key : Key)
  | put (key : Key) (nodes : List Node)
  | putIfAbsent (key : Key) (nodes : List Node)
  | contains (key : Key)
  | size
  | clear

/-- The keys that an operation drives out, and what becomes of the cache. -/
def operate (cache : Cache) : Operation → List Key × Cache
  | .get key => ([], (cache.get key).2)
  | .put key nodes => cache.put key nodes
  | .putIfAbsent key nodes => (cache.putIfAbsent key nodes).2
  | .contains _ | .size => ([], cache)
  | .clear => ([], cache.clear)

/-- What becomes of an empty cache by operations, of which the latest comes first. -/
def reached (capacity : Option Nat) : List Operation → Cache
  | [] => empty capacity
  | operation :: earlier => ((reached capacity earlier).operate operation).2

/-- The keys that are present when an operation drives some out. -/
def present (cache : Cache) : Operation → List Key
  | .get key =>
    if key ∈ cache.keys ∧ cache.capacity.isSome then cache.keys.erase key ++ [key] else cache.keys
  | .put key _ | .putIfAbsent key _ =>
    if key ∈ cache.keys then cache.keys else cache.keys ++ [key]
  | .contains _ | .size => cache.keys
  | .clear => []

variable {cache : Cache} {key : Key}

/-- There is an entry under each of the keys. -/
theorem isSome_find?_iff : (cache.find? key).isSome ↔ key ∈ cache.keys := by
  rw [Option.isSome_iff_exists, keys, List.mem_map]
  constructor
  · rintro ⟨nodes, found⟩
    rw [find?_eq, Entries.lookup_eq_some_iff cache.nodup_keys] at found
    exact ⟨(key, nodes), found, rfl⟩
  · rintro ⟨⟨_, nodes⟩, there, rfl⟩
    exact ⟨nodes, by rw [find?_eq, Entries.lookup_eq_some_iff cache.nodup_keys]; exact there⟩

/-- An empty cache has no keys. -/
theorem keys_empty (capacity : Option Nat) : (empty capacity).keys = [] := by
  simp [keys, entries, empty, Queue.toList_empty]

/-- A key that is in use comes last, if there is a capacity. -/
theorem keys_get (cache : Cache) (key : Key) :
    (cache.get key).2.keys = cache.present (.get key) := by
  unfold get
  split
  · rename_i absent
    have notThere : key ∉ cache.keys := by
      rw [← isSome_find?_iff, absent]
      simp
    rw [present, if_neg fun ⟨there, _⟩ => notThere there]
    rfl
  · rename_i nodes found
    have there : key ∈ cache.keys := by
      rw [← isSome_find?_iff, found]
      rfl
    simp only [keys, entries_hit found, present]
    rw [keys] at there
    cases cache.capacity with
    | none => simp
    | some bound => simp [there, Entries.map_fst_remove]

/-- What is driven out are the first keys, and all others stay. -/
theorem trim_append_keys (cache : Cache) : cache.trim.1 ++ cache.trim.2.keys = cache.keys := by
  rw [trim_keys, keys, keys, entries_trim, List.map_drop, List.take_append_drop]

/-- Storing brings in a key that is new. -/
theorem keys_store (cache : Cache) (key : Key) (nodes : List Node) :
    (cache.store key nodes).keys = cache.present (.put key nodes) := by
  rw [keys, entries_store, Entries.map_fst_put]
  rfl

/-- An operation drives the first ones out of the keys that are present, and all others stay. -/
theorem driven_append_keys (cache : Cache) (operation : Operation) :
    (cache.operate operation).1 ++ (cache.operate operation).2.keys = cache.present operation := by
  cases operation with
  | get key => exact cache.keys_get key
  | put key nodes => exact (trim_append_keys _).trans (cache.keys_store key nodes)
  | putIfAbsent key nodes =>
    simp only [operate, putIfAbsent]
    cases found : cache.find? key with
    | some there =>
      have isThere : key ∈ cache.keys := by
        rw [← isSome_find?_iff, found]
        rfl
      simp [trim_append_keys, present, isThere]
    | none => exact (trim_append_keys _).trans (cache.keys_store key nodes)
  | contains key => rfl
  | size => rfl
  | clear => exact keys_empty cache.capacity

/-! ## The number of keys -/

/-- Nothing changes how much a cache has room for. -/
theorem capacity_operate (cache : Cache) (operation : Operation) :
    (cache.operate operation).2.capacity = cache.capacity := by
  cases operation with
  | get key =>
    simp only [operate, get]
    split <;> rfl
  | putIfAbsent key nodes =>
    simp only [operate, putIfAbsent]
    split <;> rfl
  | _ => rfl

/-- A cache has room for as much as it had at first. -/
theorem capacity_reached (capacity : Option Nat) (operations : List Operation) :
    (reached capacity operations).capacity = capacity := by
  induction operations with
  | nil => rfl
  | cons operation earlier inductionHypothesis =>
    exact (capacity_operate _ operation).trans inductionHypothesis

/-- As many keys are driven out as are more than there is room for. -/
theorem trim_eq {room : Nat} (bounded : cache.capacity = some room) :
    cache.trim.1 = cache.keys.take (cache.keys.length - room) ∧
      cache.trim.2.keys = cache.keys.drop (cache.keys.length - room) := by
  have excess : cache.excess = cache.keys.length - room := by
    simp [Cache.excess, bounded, keys, size_eq]
  rw [trim_keys, keys, keys, entries_trim, List.map_drop, excess]
  exact ⟨rfl, rfl⟩

/-- Operations bring in one key at a time, and some of them none. -/
theorem length_present_le (cache : Cache) (operation : Operation) :
    (cache.present operation).length ≤ cache.keys.length + 1 := by
  unfold present
  split
  · split
    · rename_i there
      rw [List.length_append, List.length_erase_of_mem there.1, List.length_singleton]
      omega
    · omega
  · split <;> simp
  · split <;> simp
  · omega
  · omega
  · simp

/-- Asking for an entry brings in no key. -/
theorem length_present_get (cache : Cache) (key : Key) :
    (cache.present (.get key)).length = cache.keys.length := by
  rw [present]
  split
  · rename_i there
    have positive := List.length_pos_of_mem there.1
    rw [List.length_append, List.length_erase_of_mem there.1, List.length_singleton]
    omega
  · rfl

/-- In a cache that is not too large, as many keys are driven out as are then too many. -/
theorem operate_eq {room : Nat} (bounded : cache.capacity = some room)
    (fits : cache.keys.length ≤ room) (operation : Operation) :
    (cache.operate operation).1 =
        (cache.present operation).take ((cache.present operation).length - room) ∧
      (cache.operate operation).2.keys =
        (cache.present operation).drop ((cache.present operation).length - room) := by
  have stored (key : Key) (nodes : List Node) :
      (cache.put key nodes).1 =
          (cache.present (.put key nodes)).take ((cache.present (.put key nodes)).length - room) ∧
        (cache.put key nodes).2.keys =
          (cache.present (.put key nodes)).drop
            ((cache.present (.put key nodes)).length - room) := by
    have storedBounded : (cache.store key nodes).capacity = some room := bounded
    rw [← cache.keys_store key nodes]
    exact trim_eq storedBounded
  cases operation with
  | get key =>
    rw [length_present_get, Nat.sub_eq_zero_of_le fits]
    exact ⟨rfl, cache.keys_get key⟩
  | put key nodes => exact stored key nodes
  | putIfAbsent key nodes =>
    simp only [operate, putIfAbsent]
    cases found : cache.find? key with
    | some there =>
      have isThere : key ∈ cache.keys := by
        rw [← isSome_find?_iff, found]
        rfl
      rw [present, if_pos isThere]
      exact trim_eq bounded
    | none => exact stored key nodes
  | contains key => simp [operate, present, Nat.sub_eq_zero_of_le fits]
  | size => simp [operate, present, Nat.sub_eq_zero_of_le fits]
  | clear => simp [operate, present, clear, keys_empty]

/-- At first there are no keys. -/
theorem keys_reached_nil (capacity : Option Nat) : (reached capacity []).keys = [] :=
  keys_empty capacity

/-- A cache with a capacity never has more keys than it has room for. -/
theorem length_keys_reached_le (room : Nat) (operations : List Operation) :
    (reached (some room) operations).keys.length ≤ room := by
  induction operations with
  | nil => exact Nat.zero_le room
  | cons operation earlier inductionHypothesis =>
    have kept := (operate_eq (capacity_reached _ earlier) inductionHypothesis operation).2
    rw [reached, kept, List.length_drop]
    omega

end Cache

end Stencil
