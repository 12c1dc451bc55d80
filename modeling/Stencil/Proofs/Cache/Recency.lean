import Stencil.Proofs.Cache.Operation

/-!
# The order in which keys are driven out

A cache with a capacity keeps its keys in the order in which they were last renewed: by being
brought in, or by being found (`Operation.renews`). The key that is driven out is the one that was
renewed the longest time ago (`Cache.driven_isOldest`).

Storing over an entry uses its key as well (`Operation.uses`), and so does the attempt to store
where there is an entry. Neither renews the key. The order is that of the last use as long as
nothing of the kind happens, and need not be afterwards (`Cache.driven_isNotOldest`).
-/

namespace Stencil.Cache

/-! ## Touching keys -/

/-- The key that an operation uses: it finds an entry under it, stores one, or would do so if there
were none. -/
def Operation.uses (cache : Cache) : Operation → Option Key
  | .get key => if key ∈ cache.keys then some key else none
  | .put key _ | .putIfAbsent key _ => some key
  | .contains _ | .size | .clear => none

/-- The key that an operation renews: it finds an entry under it, or brings it in. -/
def Operation.renews (cache : Cache) : Operation → Option Key
  | .get key => if key ∈ cache.keys then some key else none
  | .put key _ | .putIfAbsent key _ => if key ∈ cache.keys then none else some key
  | .contains _ | .size | .clear => none

/-- When a key was last touched by operations, of which the latest comes first: how many operations
there had been by then, or none if the key was not touched. -/
def lastTouch (touches : Cache → Operation → Option Key) (capacity : Option Nat) (key : Key) :
    List Operation → Nat
  | [] => 0
  | operation :: earlier =>
    if touches (reached capacity earlier) operation = some key then earlier.length + 1
    else lastTouch touches capacity key earlier

/-- When a key was last used. -/
def lastUse : Option Nat → Key → List Operation → Nat :=
  lastTouch fun cache operation => operation.uses cache

/-- When a key was last renewed. -/
def lastRenewal : Option Nat → Key → List Operation → Nat :=
  lastTouch fun cache operation => operation.renews cache

/-- No operation used a key without renewing it. -/
def RenewsUsed (capacity : Option Nat) (operations : List Operation) : Prop :=
  ∀ operation earlier, operation :: earlier <:+ operations →
    operation.uses (reached capacity earlier) = operation.renews (reached capacity earlier)

section Touch

variable {touches : Cache → Operation → Option Key} {capacity : Option Nat}

/-- No key was touched later than by the latest operation. -/
theorem lastTouch_le (key : Key) (operations : List Operation) :
    lastTouch touches capacity key operations ≤ operations.length := by
  induction operations with
  | nil => exact Nat.le_refl 0
  | cons operation earlier inductionHypothesis =>
    rw [lastTouch, List.length_cons]
    split <;> omega

/-- As long as every used key is renewed, the last use is the last renewal. -/
theorem lastUse_eq_lastRenewal {operations : List Operation}
    (renewsUsed : RenewsUsed capacity operations) (key : Key) :
    lastUse capacity key operations = lastRenewal capacity key operations := by
  induction operations with
  | nil => rfl
  | cons operation earlier inductionHypothesis =>
    have here := renewsUsed operation earlier (List.suffix_refl _)
    have before := inductionHypothesis fun other past within =>
      renewsUsed other past (within.trans (List.suffix_cons operation earlier))
    unfold lastUse lastRenewal at before ⊢
    rw [lastTouch, lastTouch, here, before]

end Touch

/-! ## The order of keys -/

/-- An operation puts the key that it renews behind all others; if it renews none, it brings none
in and leaves the keys in their order. -/
theorem present_cases {cache : Cache} (bounded : cache.capacity.isSome) (operation : Operation) :
    (∃ key, operation.renews cache = some key ∧
      cache.present operation = cache.keys.erase key ++ [key]) ∨
    (operation.renews cache = none ∧ (cache.present operation).Sublist cache.keys) := by
  have stored (key : Key) (nodes : List Node) :
      (∃ renewed, Operation.renews cache (.put key nodes) = some renewed ∧
        cache.present (.put key nodes) = cache.keys.erase renewed ++ [renewed]) ∨
      (Operation.renews cache (.put key nodes) = none ∧
        (cache.present (.put key nodes)).Sublist cache.keys) := by
    by_cases there : key ∈ cache.keys
    · exact .inr ⟨if_pos there, by simp [present, there]⟩
    · exact .inl ⟨key, if_neg there, by simp [present, there, List.erase_of_not_mem there]⟩
  cases operation with
  | get key =>
    by_cases there : key ∈ cache.keys
    · exact .inl ⟨key, if_pos there, by simp [present, there, bounded]⟩
    · exact .inr ⟨if_neg there, by simp [present, there]⟩
  | put key nodes => exact stored key nodes
  | putIfAbsent key nodes => exact stored key nodes
  | contains key => exact .inr ⟨rfl, List.Sublist.refl _⟩
  | size => exact .inr ⟨rfl, List.Sublist.refl _⟩
  | clear => exact .inr ⟨rfl, List.nil_sublist _⟩

/-- Keys in the order in which they were last renewed. -/
def InOrder (capacity : Option Nat) (operations : List Operation) (keys : List Key) : Prop :=
  keys.Pairwise fun former latter =>
    lastRenewal capacity former operations < lastRenewal capacity latter operations

section InOrder

variable {room : Nat} {past : List Operation}

/-- An operation leaves the keys in the order of their last renewal. -/
theorem InOrder.present (inOrder : InOrder (some room) past (reached (some room) past).keys)
    (operation : Operation) :
    InOrder (some room) (operation :: past) ((reached (some room) past).present operation) := by
  have bounded : (reached (some room) past).capacity.isSome := by
    rw [capacity_reached]
    rfl
  rcases present_cases bounded operation with ⟨key, renews, present⟩ | ⟨renews, sublist⟩
  · have renewed : lastRenewal (some room) key (operation :: past) = past.length + 1 := by
      simp [lastRenewal, lastTouch, renews]
    have unchanged : ∀ other, other ≠ key →
        lastRenewal (some room) other (operation :: past) = lastRenewal (some room) other past := by
      intro other apart
      simp [lastRenewal, lastTouch, renews, apart.symm]
    have apart : ∀ other ∈ (reached (some room) past).keys.erase key, other ≠ key :=
      fun other there => ((reached (some room) past).nodup_keys.mem_erase_iff.mp there).1
    rw [present, InOrder, List.pairwise_append]
    refine ⟨?_, List.pairwise_singleton _ _, ?_⟩
    · refine (inOrder.sublist List.erase_sublist).imp_of_mem fun former latter before => ?_
      rw [unchanged _ (apart _ former), unchanged _ (apart _ latter)]
      exact before
    · intro other there latest isLatest
      obtain rfl := List.mem_singleton.mp isLatest
      rw [renewed, unchanged other (apart other there)]
      exact Nat.lt_succ_of_le (lastTouch_le other past)
  · have unchanged : ∀ other,
        lastRenewal (some room) other (operation :: past) = lastRenewal (some room) other past := by
      intro other
      simp [lastRenewal, lastTouch, renews]
    refine (inOrder.sublist sublist).imp fun before => ?_
    rw [unchanged, unchanged]
    exact before

/-- A cache with a capacity has its keys in the order in which they were last renewed. -/
theorem inOrder_keys (room : Nat) (past : List Operation) :
    InOrder (some room) past (reached (some room) past).keys := by
  induction past with
  | nil => simp [InOrder, keys_reached_nil]
  | cons operation earlier inductionHypothesis =>
    have present := inductionHypothesis.present operation
    rw [← driven_append_keys] at present
    exact present.sublist (List.sublist_append_right _ _)

end InOrder

/-! ## What is driven out -/

/-- At most one key is driven out at a time. It is the one that was renewed the longest time ago of
all that are present, and, as long as every used key was renewed, the one that was used the longest
time ago. -/
theorem driven_isOldest (room : Nat) (past : List Operation) (operation : Operation) {key : Key}
    (isDriven : key ∈ ((reached (some room) past).operate operation).1) :
    ((reached (some room) past).operate operation).1 = [key] ∧
      key ∈ (reached (some room) past).present operation ∧
      (∀ other ∈ (reached (some room) past).present operation, other ≠ key →
        lastRenewal (some room) key (operation :: past) <
          lastRenewal (some room) other (operation :: past)) ∧
      (RenewsUsed (some room) (operation :: past) →
        ∀ other ∈ (reached (some room) past).present operation, other ≠ key →
          lastUse (some room) key (operation :: past) <
            lastUse (some room) other (operation :: past)) := by
  have fits := length_keys_reached_le room past
  have driven := (operate_eq (capacity_reached _ past) fits operation).1
  have alone : ((reached (some room) past).operate operation).1 = [key] := by
    have few := length_present_le (reached (some room) past) operation
    have atMostOne : ((reached (some room) past).operate operation).1.length ≤ 1 := by
      rw [driven, List.length_take]
      omega
    obtain ⟨only, isOnly⟩ := List.length_eq_one_iff.mp
      (Nat.le_antisymm atMostOne (List.length_pos_of_mem isDriven))
    rw [isOnly] at isDriven ⊢
    rw [List.mem_singleton.mp isDriven]
  have together := driven_append_keys (reached (some room) past) operation
  have inOrder := (inOrder_keys room past).present operation
  rw [← together, alone] at inOrder ⊢
  have isFirst : ∀ other ∈ [key] ++ ((reached (some room) past).operate operation).2.keys,
      other ≠ key → lastRenewal (some room) key (operation :: past) <
        lastRenewal (some room) other (operation :: past) := by
    intro other there apart
    rcases List.mem_cons.mp there with same | kept
    · exact absurd same apart
    · exact (List.pairwise_cons.mp inOrder).1 other kept
  refine ⟨rfl, List.mem_cons_self, isFirst, fun renewsUsed other there apart => ?_⟩
  rw [lastUse_eq_lastRenewal renewsUsed, lastUse_eq_lastRenewal renewsUsed]
  exact isFirst other there apart

/-! ## Storing over an entry -/

/-- The key of a short text. -/
def shortKey (text : String) : Key :=
  .of .standard (.of text)

/-- Other texts have other keys. -/
theorem shortKey_ne {first second : String} (apart : Text.of first ≠ Text.of second) :
    shortKey first ≠ shortKey second :=
  fun same => apart (Key.eq_iff.mp same).2

/-- What is left of the keys that are present is what there is room for. -/
theorem keys_reached_cons (room : Nat) (past : List Operation) (operation : Operation) :
    (reached (some room) (operation :: past)).keys =
      ((reached (some room) past).present operation).drop
        (((reached (some room) past).present operation).length - room) :=
  (operate_eq (capacity_reached _ past) (length_keys_reached_le room past) operation).2

/-- Where there is room for one entry, a second one drives out the first. -/
theorem driven_isOldest_single :
    shortKey "a" ∈ ((reached (some 1) [.put (shortKey "a") []]).operate
        (.put (shortKey "b") [])).1 ∧
      ∀ other ∈ (reached (some 1) [.put (shortKey "a") []]).present (.put (shortKey "b") []),
        other ≠ shortKey "a" →
          lastRenewal (some 1) (shortKey "a") [.put (shortKey "b") [], .put (shortKey "a") []] <
            lastRenewal (some 1) other [.put (shortKey "b") [], .put (shortKey "a") []] := by
  have apart : shortKey "b" ≠ shortKey "a" := shortKey_ne (by decide)
  have keys : (reached (some 1) [.put (shortKey "a") []]).keys = [shortKey "a"] := by
    simp [keys_reached_cons, present, keys_reached_nil]
  have isDriven : shortKey "a" ∈ ((reached (some 1) [.put (shortKey "a") []]).operate
      (.put (shortKey "b") [])).1 := by
    rw [(operate_eq (capacity_reached _ _) (length_keys_reached_le 1 _) _).1]
    simp [present, keys, apart]
  exact ⟨isDriven, (driven_isOldest 1 _ _ isDriven).2.2.1⟩

/-- Where there is room for two entries, and the first one was stored over after the second one was
stored, the first one is driven out although it was used later. -/
theorem driven_isNotOldest :
    ((reached (some 2) [.put (shortKey "a") [], .put (shortKey "b") [],
        .put (shortKey "a") []]).operate (.put (shortKey "c") [])).1 = [shortKey "a"] ∧
      shortKey "b" ∈ (reached (some 2) [.put (shortKey "a") [], .put (shortKey "b") [],
        .put (shortKey "a") []]).present (.put (shortKey "c") []) ∧
      lastUse (some 2) (shortKey "b") [.put (shortKey "c") [], .put (shortKey "a") [],
          .put (shortKey "b") [], .put (shortKey "a") []] <
        lastUse (some 2) (shortKey "a") [.put (shortKey "c") [], .put (shortKey "a") [],
          .put (shortKey "b") [], .put (shortKey "a") []] := by
  have secondApart : shortKey "b" ≠ shortKey "a" := shortKey_ne (by decide)
  have thirdApart : shortKey "c" ≠ shortKey "a" := shortKey_ne (by decide)
  have lastApart : shortKey "c" ≠ shortKey "b" := shortKey_ne (by decide)
  have keys : (reached (some 2) [.put (shortKey "a") [], .put (shortKey "b") [],
      .put (shortKey "a") []]).keys = [shortKey "a", shortKey "b"] := by
    simp [keys_reached_cons, present, keys_reached_nil, secondApart]
  refine ⟨?_, ?_, ?_⟩
  · rw [(operate_eq (capacity_reached _ _) (length_keys_reached_le 2 _) _).1]
    simp [present, keys, thirdApart, lastApart]
  · simp [present, keys, thirdApart, lastApart]
  · simp [lastUse, lastTouch, Operation.uses, secondApart.symm, thirdApart, lastApart]

end Stencil.Cache
