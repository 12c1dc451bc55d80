import Stencil.Cache.Parse
import Stencil.Proofs.Template.Body

/-!
# What a cache contains

The nodes in a cache come from parses: from those of whole templates, and from those of section
bodies, which are parsed where they stand. A property that the results of parses have is therefore
one of all that a cache contains (`Cache.Contains.parse`).

A template is longer than its own sections, so that none of these takes its place before it is
stored itself. A cache without entries therefore yields what parsing without a cache yields
(`Cache.parse_empty`).
-/

namespace Stencil

/-- Whatever is among entries after one was stored is that one or was there before. -/
theorem Entries.mem_put {Key Content : Type} [BEq Key] [LawfulBEq Key]
    {entries : Entries Key Content} {key : Key} {content : Content} {entry : Key × Content}
    (member : entry ∈ entries.put key content) : entry = (key, content) ∨ entry ∈ entries := by
  induction entries with
  | nil => exact .inl (List.mem_singleton.mp member)
  | cons first rest inductionHypothesis =>
    obtain ⟨present, old⟩ := first
    simp only [Entries.put] at member
    split at member
    · rename_i same
      rcases List.mem_cons.mp member with rfl | later
      · exact .inl (by rw [eq_of_beq same])
      · exact .inr (List.mem_cons_of_mem _ later)
    · rcases List.mem_cons.mp member with rfl | later
      · exact .inr List.mem_cons_self
      · exact (inductionHypothesis later).imp_right (List.mem_cons_of_mem _)

namespace Cache

variable {property : Key → List Node → Prop} {cache : Cache}

/-- Everything in a cache has a property. -/
def Contains (property : Key → List Node → Prop) (cache : Cache) : Prop :=
  ∀ key nodes, (key, nodes) ∈ cache.entries → property key nodes

/-- What is found in a cache is in it. -/
theorem Contains.find? (contains : Contains property cache) {key : Key} {nodes : List Node}
    (found : cache.find? key = some nodes) : property key nodes := by
  apply contains
  rw [Cache.find?_eq, Entries.lookup_eq_some_iff cache.nodup_keys] at found
  exact found

/-- There is nothing in a cache without entries. -/
theorem Contains.empty (capacity : Option Nat) : Contains property (Cache.empty capacity) := by
  intro key nodes member
  rw [Cache.entries, Cache.empty, Queue.toList_empty] at member
  cases member

/-- Questions without an answer change no entries. -/
theorem Contains.miss (contains : Contains property cache) : Contains property cache.miss :=
  contains

/-- Questions with an answer change no entries but their order. -/
theorem Contains.hit (contains : Contains property cache) {key : Key} {nodes : List Node}
    (found : cache.find? key = some nodes) : Contains property (cache.hit key) := by
  intro other kept member
  rw [Cache.entries_hit found] at member
  split at member
  · rcases List.mem_append.mp member with former | latter
    · exact contains other kept (List.mem_of_mem_eraseP former)
    · obtain ⟨rfl, rfl⟩ := Prod.mk.inj (List.mem_singleton.mp latter)
      exact contains.find? found
  · exact contains other kept member

/-- Nothing comes in when entries are driven out. -/
theorem Contains.trim (contains : Contains property cache) : Contains property cache.trim.2 := by
  intro key nodes member
  rw [Cache.entries_trim] at member
  exact contains key nodes (List.mem_of_mem_drop member)

/-- What is stored comes in. -/
theorem Contains.put (contains : Contains property cache) {key : Key} {nodes : List Node}
    (fits : property key nodes) : Contains property (cache.put key nodes).2 := by
  apply Contains.trim
  intro other kept member
  rw [Cache.entries_store] at member
  rcases Entries.mem_put member with same | earlier
  · obtain ⟨rfl, rfl⟩ := Prod.mk.inj same
    exact fits
  · exact contains other kept earlier

/-- What is stored comes in, unless something is there already. -/
theorem Contains.putIfAbsent (contains : Contains property cache) {key : Key} {nodes : List Node}
    (fits : property key nodes) :
    Contains property (cache.putIfAbsent key nodes).2.2 := by
  unfold Cache.putIfAbsent
  split
  · exact contains.trim
  · exact contains.put fits

/-- The bodies that a parse reports come in. -/
theorem Contains.recordAll (contains : Contains property cache) {events : List Template.Event}
    (fits : ∀ delimiters source nodes, .bodyParsed delimiters source nodes ∈ events →
      property (.of delimiters source) nodes) :
    Contains property (cache.recordAll events).1 := by
  induction events generalizing cache with
  | nil => exact contains
  | cons event events inductionHypothesis =>
    apply inductionHypothesis
    · cases event with
      | delimitersChanged changed => exact contains
      | bodyParsed delimiters source nodes =>
        exact contains.put (fits delimiters source nodes List.mem_cons_self)
    · intro delimiters source nodes later
      exact fits delimiters source nodes (List.mem_cons_of_mem _ later)

/-- Nothing in a cache is under a key under which nothing is found. -/
theorem Contains.of_absent {key : Key} (absent : cache.find? key = none) :
    Contains (fun present _ => present ≠ key) cache := by
  rintro present nodes member rfl
  rw [Cache.find?_eq] at absent
  rw [(Entries.lookup_eq_some_iff cache.nodup_keys).mpr member] at absent
  simp at absent

/-- Where every key is another one, nothing is found. -/
theorem Contains.find?_eq_none {key : Key}
    (contains : Contains (fun present _ => present ≠ key) cache) : cache.find? key = none := by
  cases found : cache.find? key with
  | none => rfl
  | some nodes => exact absurd rfl (contains.find? found)

section Parse

variable {delimiters : Delimiters} {template : Text}

/-- The bodies of a template do not take its place. -/
theorem Contains.recordAll_parse
    (contains : Contains (fun present _ => present ≠ .of delimiters template) cache) :
    Contains (fun present _ => present ≠ .of delimiters template)
      (cache.recordAll (Template.parse delimiters template).1).1 := by
  apply contains.recordAll
  intro reported source nodes member same
  obtain ⟨body, -, rfl, -, inside, -⟩ := Template.exists_body_of_mem_events member
  have shorter : body.source.length < template.length := body.source_shorter inside
  have sameSource : body.source = template := (Key.eq_iff.mp same).2
  rw [sameSource] at shorter
  exact Nat.lt_irrefl _ shorter

/-- A template that is not in the cache is parsed. -/
theorem parse_of_absent (absent : cache.find? (.of delimiters template) = none) :
    (cache.parse delimiters template).result = (Template.parse delimiters template).2 := by
  have others := (Contains.of_absent absent).miss.recordAll_parse
  have stillAbsent := others.find?_eq_none
  unfold Cache.parse Cache.get
  rw [absent]
  dsimp only
  split
  · rename_i failed
    exact failed.symm
  · rename_i nodes parsed
    simp only [Cache.putIfAbsent, stillAbsent]
    exact parsed.symm

/-- A template that is in the cache is not parsed. -/
theorem parse_of_present {nodes : List Node}
    (present : cache.find? (.of delimiters template) = some nodes) :
    (cache.parse delimiters template).result = .ok nodes := by
  unfold Cache.parse Cache.get
  rw [present]

/-- A cache without entries changes nothing about a parse. -/
theorem parse_empty (capacity : Option Nat) (delimiters : Delimiters) (template : Text) :
    ((Cache.empty capacity).parse delimiters template).result =
      (Template.parse delimiters template).2 :=
  parse_of_absent (Contains.empty capacity).find?_eq_none

/-- What comes into a cache by a parse are the template and its bodies. -/
theorem Contains.parse (contains : Contains property cache)
    (fitsBody : ∀ reported source nodes,
      .bodyParsed reported source nodes ∈ (Template.parse delimiters template).1 →
        property (.of reported source) nodes)
    (fits : ∀ nodes, (Template.parse delimiters template).2 = .ok nodes →
      property (.of delimiters template) nodes) :
    Contains property (cache.parse delimiters template).cache := by
  unfold Cache.parse Cache.get
  split
  · rename_i asked
    split at asked
    · simp at asked
    · rename_i found
      obtain ⟨-, rfl⟩ := Prod.mk.inj asked
      exact contains.hit found
  · rename_i asked
    split at asked
    · obtain ⟨-, rfl⟩ := Prod.mk.inj asked
      have recorded := contains.miss.recordAll fitsBody
      dsimp only
      split
      · exact recorded
      · rename_i nodes parsed
        exact recorded.putIfAbsent (fits nodes parsed)
    · simp at asked

end Parse

end Cache

end Stencil
