import Std.Data.HashSet.Lemmas

/-!
# Entries in order of insertion

A collection of entries keeps them in the order in which their keys came in. Storing under a key
that is already there changes the value and neither the key nor its place.

Entries whose keys are all different are stored by putting them together, which needs no search:
`Entries.putAll_eq_foldl` says that this is the same as storing one after the other. Where several
collections are stored so, the last one that has a key decides what is found under it
(`Entries.lookup_foldl_putAll`).
-/

namespace Stencil

/-- Values under keys, in the order in which the keys came in. -/
abbrev Entries (Key : Type) (Content : Type) := List (Key × Content)

namespace Entries

variable {Key Content : Type} [BEq Key]

/-- Entries with a value stored under a key: in the place of the key, or at the end if the key is
new. -/
def put (entries : Entries Key Content) (key : Key) (content : Content) : Entries Key Content :=
  match entries with
  | [] => [(key, content)]
  | (present, old) :: rest =>
    if present == key then (present, content) :: rest
    else (present, old) :: put rest key content

/-- Under a new key a value is stored at the end. -/
theorem put_of_new {entries : Entries Key Content} {key : Key} {content : Content}
    (isNew : ∀ entry ∈ entries, (entry.1 == key) = false) :
    put entries key content = entries ++ [(key, content)] := by
  induction entries with
  | nil => rfl
  | cons first rest inductionHypothesis =>
    have different := isNew first (by simp)
    have later := inductionHypothesis fun entry member => isNew entry (by simp [member])
    simp [put, different, later]

/-- Entries without the first one under a key. -/
def remove (entries : Entries Key Content) (key : Key) : Entries Key Content :=
  entries.eraseP fun entry => entry.1 == key

/-- No two entries have equal keys. -/
def AreDistinct (entries : Entries Key Content) : Prop :=
  entries.Pairwise fun first second => (first.1 == second.1) = false

/-- What is stored under a key is found under it, and all else is found as before. -/
theorem lookup_put [EquivBEq Key] (entries : Entries Key Content) (key other : Key)
    (content : Content) :
    (put entries key content).lookup other =
      if other == key then some content else entries.lookup other := by
  induction entries with
  | nil => cases same : other == key <;> simp [put, List.lookup_cons, same]
  | cons first rest inductionHypothesis =>
    obtain ⟨present, old⟩ := first
    cases same : present == key with
    | true =>
      have asked : (other == key) = (other == present) := (BEq.congr_right same).symm
      cases isPresent : other == present <;> simp [put, same, List.lookup_cons, asked, isPresent]
    | false =>
      cases asked : other == present with
      | true =>
        have different : (other == key) = false := (BEq.congr_left asked).trans same
        simp [put, same, List.lookup_cons, asked, different]
      | false => simp [put, same, List.lookup_cons, asked, inductionHypothesis]

section Found

variable [LawfulBEq Key]

/-- Where no two entries have the same key, what is found under a key is what is there. -/
theorem lookup_eq_some_iff {entries : Entries Key Content} (distinct : (entries.map Prod.fst).Nodup)
    {key : Key} {content : Content} :
    entries.lookup key = some content ↔ (key, content) ∈ entries := by
  induction entries with
  | nil => simp
  | cons first rest inductionHypothesis =>
    obtain ⟨present, old⟩ := first
    obtain ⟨isNew, restDistinct⟩ := List.nodup_cons.mp distinct
    by_cases same : key = present
    · subst same
      have absent : (key, content) ∉ rest := fun there =>
        isNew (List.mem_map.mpr ⟨_, there, rfl⟩)
      simp [absent, eq_comm]
    · have different : (key == present) = false := by simpa using same
      simp [List.lookup_cons, different, same, inductionHypothesis restDistinct]

/-- Where no two entries have the same key, all that go with a key are the one that goes. -/
theorem remove_eq_filter {entries : Entries Key Content} (distinct : (entries.map Prod.fst).Nodup)
    (key : Key) : remove entries key = entries.filter fun entry => entry.1 != key := by
  induction entries with
  | nil => rfl
  | cons first rest inductionHypothesis =>
    obtain ⟨present, content⟩ := first
    obtain ⟨isNew, restDistinct⟩ := List.nodup_cons.mp distinct
    by_cases same : present = key
    · subst same
      have others : rest.filter (fun entry => entry.1 != present) = rest := by
        rw [List.filter_eq_self]
        intro entry there
        simp only [bne_iff_ne]
        exact fun equal => isNew (List.mem_map.mpr ⟨entry, there, equal⟩)
      simp [remove, others]
    · have others := inductionHypothesis restDistinct
      unfold remove at others ⊢
      simp [same, others]

end Found

/-- Entries stored one after the other are just put together if no two of them have equal keys. -/
theorem foldl_put_of_areDistinct {entries further : Entries Key Content}
    (different : AreDistinct (entries ++ further)) :
    further.foldl (fun entries (key, content) => put entries key content) entries =
      entries ++ further := by
  induction further generalizing entries with
  | nil => simp
  | cons first rest inductionHypothesis =>
    have isNew : ∀ entry ∈ entries, (entry.1 == first.1) = false := fun entry member =>
      (List.pairwise_append.mp different).2.2 entry member first (by simp)
    have together : entries ++ first :: rest = (entries ++ [first]) ++ rest := by simp
    rw [together] at different ⊢
    simp only [List.foldl_cons, put_of_new isNew]
    exact inductionHypothesis different

/-- What holds of all keys and of one more holds of all of them after a value was stored under that
one. -/
theorem forall_mem_put {P : Key → Prop} {entries : Entries Key Content} {key : Key}
    (all : ∀ entry ∈ entries, P entry.1) (new : P key) (content : Content) :
    ∀ entry ∈ put entries key content, P entry.1 := by
  induction entries with
  | nil => simpa [put] using new
  | cons first rest inductionHypothesis =>
    obtain ⟨firstHolds, restHolds⟩ := List.forall_mem_cons.mp all
    rw [put]
    split
    · exact List.forall_mem_cons.mpr ⟨firstHolds, restHolds⟩
    · exact List.forall_mem_cons.mpr ⟨firstHolds, inductionHypothesis restHolds⟩

/-- Keys stay different from each other where a value is stored. -/
theorem AreDistinct.put {entries : Entries Key Content} (distinct : AreDistinct entries) (key : Key)
    (content : Content) : AreDistinct (entries.put key content) := by
  induction entries with
  | nil => exact List.pairwise_singleton _ _
  | cons first rest inductionHypothesis =>
    obtain ⟨apart, restDistinct⟩ := List.pairwise_cons.mp distinct
    rw [Entries.put]
    split
    · exact List.pairwise_cons.mpr ⟨apart, restDistinct⟩
    · rename_i different
      have isNew : (first.1 == key) = false := Bool.eq_false_iff.mpr different
      have apartFromAll := forall_mem_put (P := fun other => (first.1 == other) = false)
        apart isNew content
      exact List.pairwise_cons.mpr ⟨apartFromAll, inductionHypothesis restDistinct⟩

variable [Hashable Key]

/-- Whether the keys of entries are all different from each other and from keys that are there. -/
def areNew (present : Std.HashSet Key) : Entries Key Content → Bool
  | [] => true
  | (key, _) :: rest => !present.contains key && areNew (present.insert key) rest

/-- Entries with further ones stored one after the other. -/
def putAll (entries further : Entries Key Content) : Entries Key Content :=
  if areNew ∅ (entries ++ further) then entries ++ further
  else further.foldl (fun entries (key, content) => put entries key content) entries

/-- Entries stored one after the other, so that the last of several under one key remains. -/
def ofList (entries : List (Key × Content)) : Entries Key Content :=
  putAll [] entries

section Lawful

variable [EquivBEq Key] [LawfulHashable Key]

/-- No two new entries have equal keys, and none has one that is there. -/
theorem different_of_areNew {present : Std.HashSet Key} {entries : Entries Key Content}
    (new : areNew present entries = true) :
    (∀ entry ∈ entries, present.contains entry.1 = false) ∧ AreDistinct entries := by
  induction entries generalizing present with
  | nil => exact ⟨by simp, List.Pairwise.nil⟩
  | cons first rest inductionHypothesis =>
    simp only [areNew, Bool.and_eq_true, Bool.not_eq_true'] at new
    obtain ⟨absent, restNew⟩ := new
    obtain ⟨absentRest, different⟩ := inductionHypothesis restNew
    simp only [Std.HashSet.contains_insert, Bool.or_eq_false_iff] at absentRest
    refine ⟨?_, List.pairwise_cons.mpr ⟨fun entry member => (absentRest entry member).1, different⟩⟩
    rintro entry (_ | ⟨_, member⟩)
    · exact absent
    · exact (absentRest entry member).2

/-- Further entries are stored one after the other. -/
theorem putAll_eq_foldl (entries further : Entries Key Content) :
    putAll entries further =
      further.foldl (fun entries (key, content) => put entries key content) entries := by
  unfold putAll
  split
  · rename_i new
    exact (foldl_put_of_areDistinct (different_of_areNew new).2).symm
  · rfl

/-- Keys stay different from each other where further values are stored. -/
theorem AreDistinct.putAll {entries : Entries Key Content} (distinct : AreDistinct entries)
    (further : Entries Key Content) : AreDistinct (entries.putAll further) := by
  rw [putAll_eq_foldl]
  induction further generalizing entries with
  | nil => exact distinct
  | cons first rest inductionHypothesis => exact inductionHypothesis (distinct.put first.1 first.2)

/-- Entries that are put together from a list have different keys. -/
theorem areDistinct_ofList (entries : List (Key × Content)) : AreDistinct (ofList entries) :=
  have none : AreDistinct ([] : Entries Key Content) := List.Pairwise.nil
  none.putAll entries

end Lawful

end Entries

end Stencil
