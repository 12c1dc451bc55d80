import Stencil.Queue.Basic

/-!
# What operations do to a queue

Every operation on a queue is described by what it does to the list of the entries: `find?_eq` says
what is found, `toList_put`, `toList_moveToEnd` and `takeFirst_eq` say what the operations leave. No
two entries have the same key (`nodup_keys`).

All of this follows from two facts: the entries stand in the order of their numbers, and lists in
such an order are equal if they have the same members.
-/

namespace Stencil.Queue

variable {Key Content : Type} [BEq Key] [Hashable Key]

/-- Lists in a strict order of numbers are equal if they have the same members. -/
theorem eq_of_ordered {Entry : Type} {first second : List (Nat × Entry)}
    (firstOrdered : first.Pairwise fun former latter => former.1 < latter.1)
    (secondOrdered : second.Pairwise fun former latter => former.1 < latter.1)
    (same : ∀ entry, entry ∈ first ↔ entry ∈ second) : first = second := by
  induction first generalizing second with
  | nil =>
    cases second with
    | nil => rfl
    | cons head _ => simpa using same head
  | cons head rest inductionHypothesis =>
    cases second with
    | nil => simpa using same head
    | cons otherHead otherRest =>
      obtain ⟨headLeast, restOrdered⟩ := List.pairwise_cons.mp firstOrdered
      obtain ⟨otherLeast, otherOrdered⟩ := List.pairwise_cons.mp secondOrdered
      have heads : head = otherHead := by
        have forth := (same head).mp (by simp)
        have back := (same otherHead).mpr (by simp)
        simp only [List.mem_cons] at forth back
        rcases forth with rfl | forth
        · rfl
        · rcases back with rfl | back
          · rfl
          · have := headLeast _ back
            have := otherLeast _ forth
            omega
      subst heads
      congr 1
      refine inductionHypothesis restOrdered otherOrdered fun entry => ?_
      have members := same entry
      simp only [List.mem_cons] at members
      constructor
      · intro inRest
        rcases members.mp (.inr inRest) with rfl | there
        · exact absurd (headLeast _ inRest) (Nat.lt_irrefl _)
        · exact there
      · intro inRest
        rcases members.mpr (.inr inRest) with rfl | there
        · exact absurd (otherLeast _ inRest) (Nat.lt_irrefl _)
        · exact there

/-- The number of entries is that of the list. -/
theorem length_toList (queue : Queue Key Content) : queue.toList.length = queue.size := by
  simp [toList, size]

/-- The entries stand in the order of their numbers. -/
theorem ordered (queue : Queue Key Content) :
    queue.slots.toList.Pairwise fun former latter => former.1 < latter.1 :=
  queue.slots.ordered_keys_toList.imp Nat.compare_eq_lt.mp

/-- An entry stands under its number and nowhere else. -/
theorem mem_slots {queue : Queue Key Content} {number : Nat} {entry : Key × Content} :
    (number, entry) ∈ queue.slots.toList ↔ queue.slots[number]? = some entry :=
  Std.TreeMap.mem_toList_iff_getElem?_eq_some

/-- An entry is in a queue if it stands under some number. -/
theorem mem_toList {queue : Queue Key Content} {entry : Key × Content} :
    entry ∈ queue.toList ↔ ∃ number : Nat, queue.slots[number]? = some entry := by
  simp only [toList, List.mem_map, Prod.exists, exists_eq_right]
  exact exists_congr fun _ => mem_slots

/-- No two entries have the same key, since a key has only one number. -/
theorem nodup_keys (queue : Queue Key Content) : (queue.toList.map Prod.fst).Nodup := by
  rw [toList, List.map_map, List.Nodup, List.pairwise_map]
  refine List.Pairwise.imp_of_mem ?_ queue.ordered
  rintro ⟨former, key, content⟩ ⟨latter, other, otherContent⟩ formerThere latterThere less same
  obtain rfl : key = other := same
  have first := queue.numbers_eq.mpr ⟨_, mem_slots.mp formerThere⟩
  have second := queue.numbers_eq.mpr ⟨_, mem_slots.mp latterThere⟩
  have := Option.some.inj (first.symm.trans second)
  simp only at less
  omega

/-- What a queue holds under a key is what its entry of that key holds. -/
theorem find?_eq_some_iff {queue : Queue Key Content} {key : Key} {content : Content} :
    queue.find? key = some content ↔ (key, content) ∈ queue.toList := by
  rw [mem_toList]
  simp only [find?, Option.bind_eq_some_iff, Option.map_eq_some_iff, Prod.exists, exists_eq_right]
  constructor
  · rintro ⟨number, numbered, other, found⟩
    obtain ⟨old, there⟩ := queue.numbers_eq.mp numbered
    cases there.symm.trans found
    exact ⟨number, found⟩
  · rintro ⟨number, found⟩
    exact ⟨number, queue.numbers_eq.mpr ⟨content, found⟩, key, found⟩

/-- An entry has a key just if it has the number of that key. -/
theorem key_eq_iff (queue : Queue Key Content) {number : Nat} {key : Key}
    (isThere : queue.numbers[key]? = some number) :
    ∀ slot ∈ queue.slots.toList, slot.2.1 = key ↔ slot.1 = number := by
  rintro ⟨other, otherKey, content⟩ there
  have numbered := queue.numbers_eq.mpr ⟨content, mem_slots.mp there⟩
  constructor
  · rintro rfl
    exact Option.some.inj (numbered.symm.trans isThere)
  · rintro rfl
    obtain ⟨old, oldFound⟩ := queue.numbers_eq.mp isThere
    cases (mem_slots.mp there).symm.trans oldFound
    rfl

variable [LawfulBEq Key]

/-- What a queue holds under a key is what a search of its entries finds. -/
theorem find?_eq (queue : Queue Key Content) (key : Key) :
    queue.find? key = queue.toList.lookup key := by
  refine Option.ext fun content => ?_
  rw [find?_eq_some_iff, Entries.lookup_eq_some_iff queue.nodup_keys]

/-- A new entry comes last. -/
theorem toList_append (queue : Queue Key Content) {key : Key} {content : Content}
    (isNew : queue.numbers[key]? = none) :
    (queue.append key content isNew).toList = queue.toList ++ [(key, content)] := by
  have slots : (queue.append key content isNew).slots.toList =
      queue.slots.toList ++ [(queue.next, key, content)] := by
    refine eq_of_ordered (ordered _) ?_ ?_
    · rw [List.pairwise_append]
      refine ⟨queue.ordered, by simp, ?_⟩
      rintro ⟨number, entry⟩ there last isLast
      cases List.mem_singleton.mp isLast
      exact queue.lt_next (mem_slots.mp there)
    · rintro ⟨number, entry⟩
      rw [mem_slots, List.mem_append, mem_slots, List.mem_singleton]
      simp only [append, Std.TreeMap.getElem?_insert, Nat.compare_eq_eq]
      by_cases same : queue.next = number
      · subst same
        have absent : queue.slots[queue.next]? ≠ some entry := fun found =>
          Nat.lt_irrefl _ (queue.lt_next found)
        simp [absent, eq_comm]
      · simp [same, Ne.symm same]
  simp [toList, slots]

/-- A changed entry stays where it is. -/
theorem toList_change (queue : Queue Key Content) {number : Nat} {key : Key} {content : Content}
    (isThere : queue.numbers[key]? = some number) :
    (queue.change number key content isThere).toList = queue.toList.put key content := by
  obtain ⟨old, oldFound⟩ := queue.numbers_eq.mp isThere
  have slots : (queue.change number key content isThere).slots.toList =
      queue.slots.toList.map fun slot =>
        if slot.1 = number then (number, key, content) else slot := by
    refine eq_of_ordered (ordered _) ?_ ?_
    · rw [List.pairwise_map]
      refine queue.ordered.imp fun {former latter} less => ?_
      split <;> split <;> simp_all
    · rintro ⟨other, entry⟩
      rw [mem_slots, List.mem_map]
      simp only [change, Std.TreeMap.getElem?_insert, Nat.compare_eq_eq]
      by_cases same : number = other
      · subst same
        simp only [if_true, Option.some.injEq]
        constructor
        · rintro rfl
          exact ⟨(number, key, old), mem_slots.mpr oldFound, by simp⟩
        · rintro ⟨⟨found, other⟩, _, equal⟩
          split at equal
          · exact congrArg Prod.snd equal
          · rename_i different
            exact absurd (congrArg Prod.fst equal) different
      · simp only [same, if_false]
        constructor
        · intro found
          exact ⟨(other, entry), mem_slots.mpr found, by simp [Ne.symm same]⟩
        · rintro ⟨⟨found, content⟩, there, equal⟩
          split at equal
          · exact absurd (congrArg Prod.fst equal) same
          · exact mem_slots.mp (equal ▸ there)
  have agree := queue.key_eq_iff isThere
  have isMember : (number, key, old) ∈ queue.slots.toList := mem_slots.mpr oldFound
  rw [toList, slots, toList]
  have ordered := queue.ordered
  generalize queue.slots.toList = list at agree isMember ordered
  induction list with
  | nil => simp at isMember
  | cons head rest inductionHypothesis =>
    obtain ⟨least, restOrdered⟩ := List.pairwise_cons.mp ordered
    obtain ⟨headNumber, headKey, headContent⟩ := head
    have headAgrees := agree _ (List.mem_cons_self ..)
    by_cases same : headNumber = number
    · subst same
      obtain rfl := headAgrees.mpr rfl
      have unchanged : rest.map (fun slot =>
          if slot.1 = headNumber then (headNumber, headKey, content) else slot) = rest := by
        refine (List.map_congr_left fun slot there => if_neg ?_).trans (List.map_id rest)
        have less := least slot there
        simp only at less
        omega
      simp [Entries.put, unchanged]
    · have different : headKey ≠ key := fun equal => same (headAgrees.mp equal)
      have restMember : (number, key, old) ∈ rest := by
        rcases List.mem_cons.mp isMember with equal | there
        · exact absurd (congrArg Prod.fst equal).symm same
        · exact there
      simp only [List.map_cons, same, if_false, Entries.put, beq_iff_eq, different]
      rw [inductionHypothesis (fun slot there => agree slot (List.mem_cons_of_mem _ there))
        restMember restOrdered]

/-- Without an entry the others stay as they are. -/
theorem toList_without (queue : Queue Key Content) {number : Nat} {key : Key}
    (isThere : queue.numbers[key]? = some number) :
    (queue.without number key isThere).toList = queue.toList.remove key := by
  have slots : (queue.without number key isThere).slots.toList =
      queue.slots.toList.filter fun slot => slot.1 ≠ number := by
    refine eq_of_ordered (ordered _) (queue.ordered.filter _) ?_
    rintro ⟨other, entry⟩
    rw [mem_slots, List.mem_filter, mem_slots]
    simp only [without, Std.TreeMap.getElem?_erase, Nat.compare_eq_eq]
    by_cases same : number = other <;> simp [same, eq_comm]
  rw [Entries.remove_eq_filter queue.nodup_keys, toList, slots, toList, List.filter_map]
  refine congrArg _ (List.filter_congr fun slot there => ?_)
  by_cases same : slot.1 = number <;>
    simp [same, (queue.key_eq_iff isThere slot there)]

/-- A value is stored in the place of its key, or last if the key is new. -/
theorem toList_put (queue : Queue Key Content) (key : Key) (content : Content) :
    (queue.put key content).toList = queue.toList.put key content := by
  unfold put
  split
  · exact queue.toList_change _
  · rename_i isNew
    rw [toList_append, Entries.put_of_new]
    rintro ⟨present, old⟩ there
    obtain ⟨number, found⟩ := mem_toList.mp there
    have numbered := queue.numbers_eq.mpr ⟨old, found⟩
    simp only [beq_eq_false_iff_ne]
    rintro rfl
    simp [isNew] at numbered

/-- An entry that is moved to the end is the last one. -/
theorem toList_moveToEnd (queue : Queue Key Content) {key : Key} {content : Content}
    (isThere : queue.find? key = some content) :
    (queue.moveToEnd key).toList = queue.toList.remove key ++ [(key, content)] := by
  simp only [find?, Option.bind_eq_some_iff, Option.map_eq_some_iff, Prod.exists,
    exists_eq_right] at isThere
  obtain ⟨number, numbered, present, found⟩ := isThere
  unfold moveToEnd
  split
  · rename_i absent
    simp [absent] at numbered
  · rename_i other otherNumbered
    obtain rfl := Option.some.inj (otherNumbered.symm.trans numbered)
    rw [found]
    simp only
    rw [toList_append, toList_without]

/-- A queue without entries has no first one. -/
theorem toList_of_takeFirst?_none {queue : Queue Key Content} (isNone : queue.takeFirst? = none) :
    queue.toList = [] := by
  have isEmpty : queue.slots.minKey? = none := by
    unfold takeFirst? at isNone
    split at isNone
    · assumption
    · rename_i number least
      obtain ⟨there, _⟩ := Std.TreeMap.minKey?_eq_some_iff_mem_and_forall.mp least
      split at isNone
      · rename_i absent
        rw [Std.TreeMap.mem_iff_isSome_getElem?, absent] at there
        simp at there
      · simp at isNone
  rw [Std.TreeMap.minKey?_eq_none_iff] at isEmpty
  simpa [toList, ← Std.TreeMap.isEmpty_toList] using isEmpty

/-- The first entry of a queue is followed by the others. -/
theorem toList_of_takeFirst? {queue rest : Queue Key Content} {entry : Key × Content}
    (isFirst : queue.takeFirst? = some (entry, rest)) : queue.toList = entry :: rest.toList := by
  unfold takeFirst? at isFirst
  split at isFirst
  · simp at isFirst
  · rename_i number least
    obtain ⟨_, isLeast⟩ := Std.TreeMap.minKey?_eq_some_iff_mem_and_forall.mp least
    split at isFirst
    · simp at isFirst
    · rename_i key content found
      obtain ⟨rfl, rfl⟩ := Prod.mk.inj (Option.some.inj isFirst)
      have slots : queue.slots.toList =
          (number, key, content) :: (queue.slots.erase number).toList := by
        refine eq_of_ordered queue.ordered ?_ ?_
        · refine List.pairwise_cons.mpr ⟨?_,
            (Std.TreeMap.ordered_keys_toList).imp Nat.compare_eq_lt.mp⟩
          rintro ⟨other, entry⟩ there
          rw [Std.TreeMap.mem_toList_iff_getElem?_eq_some, Std.TreeMap.getElem?_erase] at there
          simp only [Nat.compare_eq_eq] at there
          split at there
          · simp at there
          · rename_i different
            have isMember : other ∈ queue.slots := by
              rw [Std.TreeMap.mem_iff_isSome_getElem?, there]
              rfl
            have := Nat.isLE_compare.mp (isLeast other isMember)
            simp only
            omega
        · rintro ⟨other, entry⟩
          rw [mem_slots, List.mem_cons, Std.TreeMap.mem_toList_iff_getElem?_eq_some,
            Std.TreeMap.getElem?_erase]
          simp only [Nat.compare_eq_eq]
          by_cases same : number = other
          · subst same
            simp [found, eq_comm]
          · simp [same, Ne.symm same]
      simp [toList, slots, without]

/-- The first entries of a queue are those of its list, and so are the others. -/
theorem takeFirst_eq (queue : Queue Key Content) (count : Nat) :
    (queue.takeFirst count).1 = queue.toList.take count ∧
      (queue.takeFirst count).2.toList = queue.toList.drop count := by
  induction count generalizing queue with
  | zero => simp [takeFirst]
  | succ count inductionHypothesis =>
    unfold takeFirst
    split
    · rename_i isNone
      simp [toList_of_takeFirst?_none isNone]
    · rename_i entry rest isFirst
      obtain ⟨taken, left⟩ := inductionHypothesis rest
      simp [toList_of_takeFirst? isFirst, taken, left]

/-- An empty queue holds nothing. -/
theorem toList_empty : (empty : Queue Key Content).toList = [] :=
  List.eq_nil_of_length_eq_zero (by rw [length_toList]; rfl)

end Stencil.Queue
