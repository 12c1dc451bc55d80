import Stencil.Proofs.Cache.Recency
import Stencil.Proofs.Cache.Residue

/-!
# What a cache accounts for

A cache answers for what was stored in it. Under every key it has the nodes that were stored last,
unless they were driven out or all was forgotten since (`IsKept`); it counts the questions that it
was asked and those that it could answer (`questions`); and it drives out one entry at a time, when
a new key comes in and there is no room left (`Operation.Exceeds`). `Account` puts all of this
together, and `account_reached` says that it is true after any operations, provided that there is
room for one entry at all.

Each of the facts is about one operation first, and about a history of them afterwards by induction
on the history.
-/

namespace Stencil.Cache

/-! ## Histories -/

/-- What an operation stores: nodes that are put, or nodes for a key that has none. -/
def Operation.stores (cache : Cache) : Operation → Option (Key × List Node)
  | .put key nodes => some (key, nodes)
  | .putIfAbsent key nodes => if key ∈ cache.keys then none else some (key, nodes)
  | .get _ | .contains _ | .size | .clear => none

/-- An operation that leaves what is stored under a key: it stores nothing under it, it does not
drive it out, and it does not forget everything. -/
structure Operation.Spares (cache : Cache) (key : Key) (operation : Operation) : Prop where
  notStored : ∀ nodes, operation.stores cache ≠ some (key, nodes)
  notDriven : key ∉ (cache.operate operation).1
  notCleared : operation ≠ .clear

/-- Nodes that were stored under a key by the last operation that stored any there, and that no
later operation drove out or forgot. The latest operation comes first. -/
inductive IsKept (capacity : Option Nat) (key : Key) (nodes : List Node) : List Operation → Prop
  | stored {operation : Operation} {earlier : List Operation}
      (stores : operation.stores (reached capacity earlier) = some (key, nodes)) :
      IsKept capacity key nodes (operation :: earlier)
  | spared {operation : Operation} {earlier : List Operation}
      (spares : operation.Spares (reached capacity earlier) key)
      (kept : IsKept capacity key nodes earlier) :
      IsKept capacity key nodes (operation :: earlier)

/-- How many questions there were since all was forgotten that were answered in a way that counts.
The latest operation comes first. -/
def questions (capacity : Option Nat) (counts : Option (List Node) → Bool) : List Operation → Nat
  | [] => 0
  | .clear :: _ => 0
  | .get key :: earlier =>
    questions capacity counts earlier +
      if counts ((reached capacity earlier).get key).1 then 1 else 0
  | .put _ _ :: earlier | .putIfAbsent _ _ :: earlier | .contains _ :: earlier
  | .size :: earlier => questions capacity counts earlier

/-- An operation that stores nodes under a new key in a cache that is full. -/
structure Operation.Exceeds (cache : Cache) (key : Key) (nodes : List Node)
    (operation : Operation) : Prop where
  stores : operation.stores cache = some (key, nodes)
  isNew : key ∉ cache.keys
  full : cache.capacity = some cache.keys.length

/-- A cache that has room for an entry at all, and no more entries than it has room for. -/
structure IsRoomy (cache : Cache) : Prop where
  positive : cache.capacity ≠ some 0
  fits : ∀ room, cache.capacity = some room → cache.keys.length ≤ room

/-! ## One operation -/

section Operate

variable {cache : Cache} {key : Key} {nodes : List Node} {operation : Operation}

/-- What is driven out is not found any more, and all else is found as before. -/
theorem find?_trim (cache : Cache) (key : Key) :
    cache.trim.2.find? key = if key ∈ cache.trim.1 then none else cache.find? key := by
  have together := cache.trim_append_keys
  have distinct := cache.nodup_keys
  rw [← together] at distinct
  split
  · rename_i driven
    rw [← Option.not_isSome_iff_eq_none, isSome_find?_iff]
    exact fun there => (List.nodup_append.mp distinct).2.2 key driven key there rfl
  · rename_i stays
    have absent : (cache.entries.take cache.excess).lookup key = none := by
      rw [List.lookup_eq_none_iff]
      intro entry there
      rw [bne_iff_ne]
      rintro rfl
      rw [trim_keys, keys, ← List.map_take] at stays
      exact stays (List.mem_map_of_mem there)
    have parts : cache.entries.lookup key = (cache.entries.drop cache.excess).lookup key := by
      rw [← List.take_append_drop cache.excess cache.entries, List.lookup_append, absent,
        Option.none_or, List.take_append_drop]
    rw [find?_eq, find?_eq, entries_trim, parts]

/-- What is found in a cache after something was stored in it. -/
theorem find?_store (cache : Cache) (key other : Key) (nodes : List Node) :
    (cache.store key nodes).find? other =
      if other = key then some nodes else cache.find? other := by
  rw [find?_eq, find?_eq, entries_store, Entries.lookup_put]
  simp

/-- A question changes nothing about what is found. -/
theorem find?_get (cache : Cache) (key other : Key) :
    (cache.get key).2.find? other = cache.find? other := by
  unfold get
  split
  · rfl
  · rename_i found
    refine Option.ext fun kept => ?_
    rw [find?_eq, find?_eq, Entries.lookup_eq_some_iff (nodup_keys _),
      Entries.lookup_eq_some_iff (nodup_keys _)]
    exact (entries_hit_perm found).mem_iff

/-- An operation that stores nodes does what storing them and driving out does. -/
theorem operate_of_stores (stores : operation.stores cache = some (key, nodes)) :
    cache.operate operation = cache.put key nodes := by
  cases operation with
  | put => cases stores; rfl
  | putIfAbsent =>
    simp only [Operation.stores, Option.ite_none_left_eq_some] at stores
    obtain ⟨isNew, same⟩ := stores
    cases same
    have absent : cache.find? key = none := by
      rwa [← Option.not_isSome_iff_eq_none, isSome_find?_iff]
    simp only [operate, putIfAbsent, absent]
  | _ => cases stores

/-- An operation that stores nothing and does not forget drives out what is too much. -/
theorem find?_operate_of_stores_eq_none (stores : operation.stores cache = none)
    (notCleared : operation ≠ .clear) (notDriven : key ∉ (cache.operate operation).1) :
    (cache.operate operation).2.find? key = cache.find? key := by
  cases operation with
  | get asked => exact find?_get cache asked key
  | put => cases stores
  | putIfAbsent other kept =>
    have there : other ∈ cache.keys := by simpa [Operation.stores] using stores
    obtain ⟨present, found⟩ := Option.isSome_iff_exists.mp (isSome_find?_iff.mpr there)
    simp only [operate, putIfAbsent, found] at notDriven ⊢
    rw [find?_trim, if_neg notDriven]
  | contains => rfl
  | size => rfl
  | clear => exact absurd rfl notCleared

/-- What an operation spares is found as before. -/
theorem find?_operate_of_spares (spares : operation.Spares cache key) :
    (cache.operate operation).2.find? key = cache.find? key := by
  cases stores : operation.stores cache with
  | none => exact find?_operate_of_stores_eq_none stores spares.notCleared spares.notDriven
  | some stored =>
    obtain ⟨other, kept⟩ := stored
    have apart : key ≠ other := by
      rintro rfl
      exact spares.notStored kept stores
    have notDriven := spares.notDriven
    rw [operate_of_stores stores, put] at notDriven ⊢
    rw [find?_trim, if_neg notDriven, find?_store, if_neg apart]

/-- What is driven out is not found any more. -/
theorem find?_operate_of_driven (driven : key ∈ (cache.operate operation).1) :
    (cache.operate operation).2.find? key = none := by
  have trimmed {full : Cache} (driven : key ∈ full.trim.1) : full.trim.2.find? key = none := by
    rw [find?_trim, if_pos driven]
  cases operation with
  | put other kept => exact trimmed driven
  | putIfAbsent other kept =>
    simp only [operate, putIfAbsent] at driven ⊢
    split at driven
    · exact trimmed driven
    · exact trimmed driven
  | _ => cases driven

/-! ## What is driven out -/

/-- Where nothing is too much, nothing is driven out. -/
theorem trim_of_fits (fits : ∀ room, cache.capacity = some room → cache.keys.length ≤ room) :
    cache.trim.1 = [] := by
  have none : cache.excess = 0 := by
    unfold excess
    split
    · rfl
    · rename_i room bounded
      have enough := fits room bounded
      rw [keys, List.length_map, ← size_eq] at enough
      omega
  rw [trim_keys, none, List.take_zero]

/-- Only what exceeds the room drives something out. -/
theorem driven_eq_nil (roomy : cache.IsRoomy)
    (inside : ¬ ∃ key nodes, operation.Exceeds cache key nodes) :
    (cache.operate operation).1 = [] := by
  cases stores : operation.stores cache with
  | none =>
    cases operation with
    | put => cases stores
    | putIfAbsent other kept =>
      have there : other ∈ cache.keys := by simpa [Operation.stores] using stores
      obtain ⟨present, found⟩ := Option.isSome_iff_exists.mp (isSome_find?_iff.mpr there)
      simp only [operate, putIfAbsent, found]
      exact trim_of_fits roomy.fits
    | _ => rfl
  | some stored =>
    obtain ⟨key, nodes⟩ := stored
    rw [operate_of_stores stores]
    refine trim_of_fits fun room bounded => ?_
    have bounded : cache.capacity = some room := bounded
    have fits := roomy.fits room bounded
    rw [keys_store, present]
    split
    · exact fits
    · rename_i isNew
      have notFull : cache.keys.length ≠ room := fun full =>
        inside ⟨key, nodes, stores, isNew, full ▸ bounded⟩
      rw [List.length_append, List.length_singleton]
      omega

/-- What exceeds the room drives out the first entry and comes last itself. -/
theorem operate_of_exceeds (roomy : cache.IsRoomy) (exceeds : operation.Exceeds cache key nodes) :
    ∃ oldest others, cache.entries = oldest :: others ∧
      (cache.operate operation).1 = [oldest.1] ∧
      (cache.operate operation).2.entries = others ++ [(key, nodes)] := by
  have nonempty : cache.entries ≠ [] := by
    intro nothing
    have full := exceeds.full
    rw [keys, nothing] at full
    exact roomy.positive full
  obtain ⟨oldest, others, entries⟩ := List.exists_cons_of_ne_nil nonempty
  have isNew : ∀ entry ∈ cache.entries, (entry.1 == key) = false := by
    intro entry there
    rw [beq_eq_false_iff_ne]
    rintro rfl
    exact exceeds.isNew (List.mem_map_of_mem there)
  have stored : (cache.store key nodes).entries = oldest :: (others ++ [(key, nodes)]) := by
    rw [entries_store, Entries.put_of_new isNew, entries, List.cons_append]
  have excess : (cache.store key nodes).excess = 1 := by
    have full : (cache.store key nodes).capacity = some cache.keys.length := exceeds.full
    simp only [Cache.excess, full, size_eq, stored, keys, entries, List.length_map,
      List.length_cons, List.length_append, List.length_nil]
    omega
  refine ⟨oldest, others, entries, ?_, ?_⟩
  · rw [operate_of_stores exceeds.stores, put, trim_keys, excess, keys, stored]
    rfl
  · rw [operate_of_stores exceeds.stores, put, entries_trim, excess, stored]
    rfl

/-- What is stored is not driven out by itself. -/
theorem not_driven_of_stores (roomy : cache.IsRoomy)
    (stores : operation.stores cache = some (key, nodes)) :
    key ∉ (cache.operate operation).1 := by
  by_cases full : ∃ other kept, operation.Exceeds cache other kept
  · obtain ⟨other, kept, exceeds⟩ := full
    obtain ⟨rfl, rfl⟩ := Prod.mk.inj (Option.some.inj (exceeds.stores.symm.trans stores))
    obtain ⟨oldest, others, entries, driven, -⟩ := operate_of_exceeds roomy exceeds
    rw [driven, List.mem_singleton]
    rintro rfl
    exact exceeds.isNew (by simp [keys, entries])
  · rw [driven_eq_nil roomy full]
    exact List.not_mem_nil

/-- What is stored is found. -/
theorem find?_operate_of_stores (roomy : cache.IsRoomy)
    (stores : operation.stores cache = some (key, nodes)) :
    (cache.operate operation).2.find? key = some nodes := by
  have stays := not_driven_of_stores roomy stores
  rw [operate_of_stores stores, put] at stays ⊢
  rw [find?_trim, if_neg stays, find?_store, if_pos rfl]

end Operate

/-! ## Histories of operations -/

section Reached

variable {capacity : Option Nat} {key : Key} {nodes : List Node}

/-- Whatever is done to a cache that has room at all, it never has too much. -/
theorem isRoomy_reached (roomy : capacity ≠ some 0) (past : List Operation) :
    IsRoomy (reached capacity past) where
  positive := by rwa [capacity_reached]
  fits := by
    intro room bounded
    obtain rfl := (capacity_reached capacity past).symm.trans bounded
    exact length_keys_reached_le room past

/-- What is found in a cache are the nodes that were kept. -/
theorem find?_reached_iff (roomy : capacity ≠ some 0) (past : List Operation) :
    (reached capacity past).find? key = some nodes ↔ IsKept capacity key nodes past := by
  induction past with
  | nil =>
    refine ⟨fun found => ?_, fun kept => nomatch kept⟩
    have there : key ∈ (reached capacity []).keys :=
      isSome_find?_iff.mp (Option.isSome_iff_exists.mpr ⟨nodes, found⟩)
    rw [keys_reached_nil] at there
    cases there
  | cons operation earlier inductionHypothesis =>
    have isRoomy := isRoomy_reached roomy earlier
    constructor
    · intro found
      by_cases stores : ∃ kept, operation.stores (reached capacity earlier) = some (key, kept)
      · obtain ⟨kept, stores⟩ := stores
        obtain rfl := Option.some.inj ((find?_operate_of_stores isRoomy stores).symm.trans found)
        exact .stored stores
      · have spares : operation.Spares (reached capacity earlier) key := by
          refine ⟨not_exists.mp stores, fun driven => ?_, ?_⟩
          · rw [reached, find?_operate_of_driven driven] at found
            cases found
          · rintro rfl
            have there := isSome_find?_iff.mp (Option.isSome_iff_exists.mpr ⟨nodes, found⟩)
            rw [reached, operate, clear, keys_empty] at there
            cases there
        rw [reached, find?_operate_of_spares spares] at found
        exact .spared spares (inductionHypothesis.mp found)
    · rintro (stores | ⟨spares, kept⟩)
      · exact find?_operate_of_stores isRoomy stores
      · rw [reached, find?_operate_of_spares spares]
        exact inductionHypothesis.mpr kept

/-- What was stored and is not found any more was driven out, unless all was forgotten. -/
theorem exists_driven_of_absent (roomy : capacity ≠ some 0) {later earlier : List Operation}
    {operation : Operation}
    (stores : operation.stores (reached capacity earlier) = some (key, nodes))
    (notCleared : .clear ∉ later)
    (absent : (reached capacity (later ++ operation :: earlier)).find? key = none) :
    ∃ after other before, later = after ++ other :: before ∧
      key ∈ ((reached capacity (before ++ operation :: earlier)).operate other).1 := by
  induction later with
  | nil =>
    rw [List.nil_append, reached, find?_operate_of_stores (isRoomy_reached roomy earlier) stores]
      at absent
    cases absent
  | cons latest later inductionHypothesis =>
    have isRoomy := isRoomy_reached roomy (later ++ operation :: earlier)
    by_cases driven : key ∈ ((reached capacity (later ++ operation :: earlier)).operate latest).1
    · exact ⟨[], latest, later, rfl, driven⟩
    · have before : (reached capacity (later ++ operation :: earlier)).find? key = none := by
        by_cases again : ∃ kept,
            latest.stores (reached capacity (later ++ operation :: earlier)) = some (key, kept)
        · obtain ⟨kept, again⟩ := again
          rw [List.cons_append, reached, find?_operate_of_stores isRoomy again] at absent
          cases absent
        · have spares : latest.Spares (reached capacity (later ++ operation :: earlier)) key :=
            ⟨not_exists.mp again, driven, fun clears => notCleared (clears ▸ List.mem_cons_self)⟩
          rwa [List.cons_append, reached, find?_operate_of_spares spares] at absent
      obtain ⟨after, other, between, rfl, gone⟩ :=
        inductionHypothesis (fun there => notCleared (List.mem_cons_of_mem _ there)) before
      exact ⟨latest :: after, other, between, rfl, gone⟩

/-- A question is counted, and an answer as well. -/
theorem counts_get (cache : Cache) (key : Key) :
    (cache.get key).2.hits = cache.hits + (if (cache.get key).1.isSome then 1 else 0) ∧
      (cache.get key).2.hits + (cache.get key).2.misses = cache.hits + cache.misses + 1 := by
  unfold get
  split
  · exact ⟨rfl, rfl⟩
  · exact ⟨rfl, Nat.succ_add _ _⟩

/-- Storing is no question. -/
theorem counts_putIfAbsent (cache : Cache) (key : Key) (nodes : List Node) :
    (cache.putIfAbsent key nodes).2.2.hits = cache.hits ∧
      (cache.putIfAbsent key nodes).2.2.misses = cache.misses := by
  unfold putIfAbsent
  split <;> exact ⟨rfl, rfl⟩

/-- A cache counts the questions it was asked, and those that it could answer. -/
theorem counts_reached (capacity : Option Nat) (past : List Operation) :
    (reached capacity past).hits = questions capacity Option.isSome past ∧
      (reached capacity past).hits + (reached capacity past).misses =
        questions capacity (fun _ => true) past := by
  induction past with
  | nil => exact ⟨rfl, rfl⟩
  | cons operation earlier inductionHypothesis =>
    obtain ⟨hits, both⟩ := inductionHypothesis
    cases operation with
    | get key =>
      obtain ⟨answered, asked⟩ := counts_get (reached capacity earlier) key
      rw [hits] at answered
      rw [both] at asked
      exact ⟨answered, asked⟩
    | putIfAbsent key nodes =>
      obtain ⟨sameHits, sameMisses⟩ := counts_putIfAbsent (reached capacity earlier) key nodes
      simp only [reached, operate, questions, sameHits, sameMisses]
      exact ⟨hits, both⟩
    | put => exact ⟨hits, both⟩
    | contains => exact ⟨hits, both⟩
    | size => exact ⟨hits, both⟩
    | clear => exact ⟨rfl, rfl⟩

/-- What is asked for is what is found. -/
theorem get_eq_find? (cache : Cache) (key : Key) : (cache.get key).1 = cache.find? key := by
  unfold get
  split
  · rename_i absent
    exact absent.symm
  · rename_i found
    exact found.symm

/-- A key that something is to be stored under is present afterwards. -/
theorem contains_operate (roomy : capacity ≠ some 0) (past : List Operation) (key : Key)
    (nodes : List Node) :
    ((reached capacity past).operate (.put key nodes)).2.contains key = true ∧
      ((reached capacity past).operate (.putIfAbsent key nodes)).2.contains key = true := by
  have isRoomy := isRoomy_reached roomy past
  have stored {operation : Operation}
      (stores : operation.stores (reached capacity past) = some (key, nodes)) :
      ((reached capacity past).operate operation).2.contains key = true := by
    rw [contains, find?_operate_of_stores isRoomy stores]
    rfl
  refine ⟨stored rfl, ?_⟩
  by_cases there : key ∈ (reached capacity past).keys
  · have storesNothing : Operation.stores (reached capacity past) (.putIfAbsent key nodes) = none :=
      if_pos there
    have inside : ¬ ∃ other kept,
        Operation.Exceeds (reached capacity past) other kept (.putIfAbsent key nodes) := by
      rintro ⟨other, kept, exceeds⟩
      cases storesNothing.symm.trans exceeds.stores
    have notClear : Operation.putIfAbsent key nodes ≠ .clear := by
      intro same
      cases same
    rw [contains, find?_operate_of_stores_eq_none storesNothing notClear
      (by rw [driven_eq_nil isRoomy inside]; exact List.not_mem_nil)]
    exact isSome_find?_iff.mpr there
  · exact stored (if_neg there)

end Reached

/-! ## The account -/

/-- What is true of a cache with a capacity after operations, of which the latest comes first. -/
structure Account (capacity : Option Nat) (past : List Operation) : Prop where
  /-- No two entries have the same key. -/
  distinct : (reached capacity past).keys.Nodup
  /-- There are no more entries than there is room for. -/
  fits : ∀ room, capacity = some room → (reached capacity past).size ≤ room
  /-- The hits are the questions that were answered. -/
  hits : (reached capacity past).hits = questions capacity Option.isSome past
  /-- The hits and misses are all questions. -/
  asked : (reached capacity past).hits + (reached capacity past).misses =
    questions capacity (fun _ => true) past
  /-- A question is answered with the nodes that were kept. -/
  answered : ∀ key nodes,
    ((reached capacity past).get key).1 = some nodes ↔ IsKept capacity key nodes past
  /-- Where a question is not answered, whatever was stored since all was forgotten was driven out
  later. -/
  unanswered : ∀ key, ((reached capacity past).get key).1 = none →
    ∀ later operation earlier nodes, past = later ++ operation :: earlier →
      operation.stores (reached capacity earlier) = some (key, nodes) → .clear ∉ later →
      ∃ after other before, later = after ++ other :: before ∧
        key ∈ ((reached capacity (before ++ operation :: earlier)).operate other).1
  /-- What is to be stored next is there afterwards, whether or not there was something before. -/
  present : ∀ key nodes,
    ((reached capacity past).operate (.put key nodes)).2.contains key = true ∧
      ((reached capacity past).operate (.putIfAbsent key nodes)).2.contains key = true
  /-- Nothing is driven out next if no new key exceeds the room. -/
  stays : ∀ operation,
    (¬ ∃ key nodes, Operation.Exceeds (reached capacity past) key nodes operation) →
      ((reached capacity past).operate operation).1 = []
  /-- A new key that exceeds the room drives out the first entry and no other. -/
  makesRoom : ∀ operation key nodes,
    Operation.Exceeds (reached capacity past) key nodes operation →
      ∃ oldest others, (reached capacity past).entries = oldest :: others ∧
        ((reached capacity past).operate operation).1 = [oldest.1] ∧
        ((reached capacity past).operate operation).2.entries = others ++ [(key, nodes)]
  /-- Looking whether there is an entry, or how many there are, changes nothing. -/
  unchanged : ∀ key,
    (reached capacity past).operate (.contains key) = ([], reached capacity past) ∧
      (reached capacity past).operate .size = ([], reached capacity past)

/-- A cache that has room for an entry at all accounts for everything that was done to it. -/
theorem account_reached {capacity : Option Nat} (roomy : capacity ≠ some 0)
    (past : List Operation) : Account capacity past where
  distinct := nodup_keys _
  fits := by
    rintro room rfl
    rw [size_eq, ← List.length_map (f := Prod.fst)]
    exact length_keys_reached_le room past
  hits := (counts_reached capacity past).1
  asked := (counts_reached capacity past).2
  answered := by
    intro key nodes
    rw [get_eq_find?]
    exact find?_reached_iff roomy past
  unanswered := by
    rintro key absent later operation earlier nodes rfl stores notCleared
    rw [get_eq_find?] at absent
    exact exists_driven_of_absent roomy stores notCleared absent
  present := contains_operate roomy past
  stays := fun _ => driven_eq_nil (isRoomy_reached roomy past)
  makesRoom := fun _ _ _ => operate_of_exceeds (isRoomy_reached roomy past)
  unchanged := fun _ => ⟨rfl, rfl⟩

/-- Where there is room for one entry, the one that came last is found. -/
theorem account_reached_single :
    some 1 ≠ some 0 ∧
      ((reached (some 1) [.putIfAbsent (shortKey "b") [.literal (.of "b")],
          .put (shortKey "a") [.literal (.of "a")]]).get (shortKey "b")).1 =
        some [.literal (.of "b")] := by
  have roomy : some 1 ≠ some 0 := by
    decide
  have keys : (reached (some 1) [.put (shortKey "a") [.literal (.of "a")]]).keys =
      [shortKey "a"] := by
    simp [keys_reached_cons, present, keys_reached_nil]
  have isNew : shortKey "b" ∉
      (reached (some 1) [.put (shortKey "a") [.literal (.of "a")]]).keys := by
    rw [keys, List.mem_singleton]
    exact shortKey_ne (by decide)
  exact ⟨roomy, ((account_reached roomy _).answered _ _).mpr (.stored (if_neg isNew))⟩

end Stencil.Cache
