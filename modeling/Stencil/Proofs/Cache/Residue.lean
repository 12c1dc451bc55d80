import Stencil.Proofs.Cache.Contents
import Stencil.Proofs.Cache.Operation
import Stencil.Proofs.Template.Progress

/-!
# What parsing leaves in a cache

A template that was parsed is in the cache afterwards, whatever its sections brought in and drove
out before, as long as there is room for one entry at all. Parsing it again is then one question
that the cache can answer. A template that cannot be parsed is not in the cache afterwards. What it
leaves there are bodies of sections that were closed before the parse stopped
(`Cache.residue_of_parse`).
-/

namespace Stencil

/-- Moving an entry to the end changes nothing but the order. -/
theorem Entries.perm_remove {Key Content : Type} [BEq Key] [LawfulBEq Key]
    {entries : Entries Key Content} {key : Key} {content : Content}
    (found : entries.lookup key = some content) :
    (entries.remove key ++ [(key, content)]).Perm entries := by
  induction entries with
  | nil => cases found
  | cons first rest inductionHypothesis =>
    obtain ⟨present, old⟩ := first
    by_cases same : present = key
    · subst same
      obtain rfl : old = content := by simpa using found
      simp [remove]
    · have different : (key == present) = false := by simpa using Ne.symm same
      rw [List.lookup_cons, different] at found
      have kept : remove ((present, old) :: rest) key = (present, old) :: remove rest key := by
        simp [remove, same]
      rw [kept, List.cons_append]
      exact (inductionHypothesis found).cons _

namespace Cache

variable {cache : Cache} {key : Key} {nodes : List Node}

/-! ## Single entries -/

/-- An entry that was found is found again. -/
theorem find?_hit (found : cache.find? key = some nodes) :
    (cache.hit key).find? key = some nodes := by
  rw [find?_eq, Entries.lookup_eq_some_iff (nodup_keys _), entries_hit found]
  split
  · exact List.mem_append_right _ (List.mem_singleton.mpr rfl)
  · rw [← Entries.lookup_eq_some_iff cache.nodup_keys, ← find?_eq]
    exact found

/-- Finding an entry changes nothing but the order of the entries. -/
theorem entries_hit_perm (found : cache.find? key = some nodes) :
    (cache.hit key).entries.Perm cache.entries := by
  rw [entries_hit found]
  split
  · exact Entries.perm_remove (cache.find?_eq key ▸ found)
  · exact .refl _

/-- A new entry stays, because the others are driven out first. -/
theorem find?_put_of_absent (roomy : cache.capacity ≠ some 0) (absent : cache.find? key = none) :
    (cache.put key nodes).2.find? key = some nodes := by
  have isNew : ∀ entry ∈ cache.entries, (entry.1 == key) = false := by
    intro entry there
    rw [beq_eq_false_iff_ne]
    exact Contains.of_absent absent entry.1 entry.2 there
  have stored : (cache.store key nodes).entries = cache.entries ++ [(key, nodes)] := by
    rw [entries_store, Entries.put_of_new isNew]
  have few : (cache.store key nodes).excess ≤ cache.entries.length := by
    unfold excess
    split
    · exact Nat.zero_le _
    · rename_i capacity bounded
      have bounded : cache.capacity = some capacity := bounded
      have positive : capacity ≠ 0 := by
        rintro rfl
        exact roomy bounded
      rw [size_eq, stored, List.length_append, List.length_singleton]
      omega
  rw [find?_eq, Entries.lookup_eq_some_iff (nodup_keys _), put, entries_trim, stored,
    List.drop_append_of_le_length few]
  exact List.mem_append_right _ (List.mem_singleton.mpr rfl)

/-! ## Parses -/

section Parse

variable {delimiters : Delimiters} {template : Text}

/-- Bringing in the bodies that a parse reports is no question, and it leaves the capacity. -/
theorem counts_recordAll (cache : Cache) (events : List Template.Event) :
    (cache.recordAll events).1.hits = cache.hits ∧
      (cache.recordAll events).1.misses = cache.misses ∧
      (cache.recordAll events).1.capacity = cache.capacity := by
  induction events generalizing cache with
  | nil => exact ⟨rfl, rfl, rfl⟩
  | cons event events inductionHypothesis =>
    cases event with
    | delimitersChanged delimiters => exact inductionHypothesis cache
    | bodyParsed delimiters source nodes => exact inductionHypothesis _

/-- A template that is in the cache is found there, and that is all. -/
theorem parse_eq_of_present (present : cache.find? (.of delimiters template) = some nodes) :
    cache.parse delimiters template = ⟨.ok nodes, cache.hit (.of delimiters template), []⟩ := by
  unfold Cache.parse Cache.get
  rw [present]

/-- The cache after the bodies of a template were brought in that it did not have. -/
def withBodies (cache : Cache) (delimiters : Delimiters) (template : Text) : Cache :=
  (cache.miss.recordAll (Template.parse delimiters template).1).1

/-- The bodies of a template do not take its place. -/
theorem find?_withBodies (absent : cache.find? (.of delimiters template) = none) :
    (cache.withBodies delimiters template).find? (.of delimiters template) = none :=
  (Contains.of_absent absent).miss.recordAll_parse.find?_eq_none

/-- A template that cannot be parsed leaves its bodies. -/
theorem cache_parse_of_error {error : ParseError}
    (absent : cache.find? (.of delimiters template) = none)
    (failed : (Template.parse delimiters template).2 = .error error) :
    (cache.parse delimiters template).cache = cache.withBodies delimiters template := by
  unfold Cache.parse Cache.get withBodies
  rw [absent]
  simp only [failed]

/-- A template that can be parsed is stored after its bodies. -/
theorem cache_parse_of_ok (absent : cache.find? (.of delimiters template) = none)
    (parsed : (Template.parse delimiters template).2 = .ok nodes) :
    (cache.parse delimiters template).cache =
      ((cache.withBodies delimiters template).put (.of delimiters template) nodes).2 := by
  have stillAbsent := find?_withBodies absent
  unfold withBodies at stillAbsent ⊢
  unfold Cache.parse Cache.get
  rw [absent]
  simp only [parsed, putIfAbsent, stillAbsent]

/-- A template that is not in the cache is one more question that it could not answer. -/
theorem misses_parse_of_absent (absent : cache.find? (.of delimiters template) = none) :
    (cache.parse delimiters template).cache.misses = cache.misses + 1 := by
  have counted := (counts_recordAll cache.miss (Template.parse delimiters template).1).2.1
  cases result : (Template.parse delimiters template).2 with
  | error error =>
    rw [cache_parse_of_error absent result]
    exact counted
  | ok nodes =>
    rw [cache_parse_of_ok absent result]
    exact counted

/-- A template that was parsed is in the cache. -/
theorem find?_parse (roomy : cache.capacity ≠ some 0)
    (parsed : (cache.parse delimiters template).result = .ok nodes) :
    (cache.parse delimiters template).cache.find? (.of delimiters template) = some nodes := by
  cases found : cache.find? (.of delimiters template) with
  | some present =>
    rw [parse_of_present found] at parsed
    obtain rfl := Except.ok.inj parsed
    rw [parse_eq_of_present found]
    exact find?_hit found
  | none =>
    rw [parse_of_absent found] at parsed
    rw [cache_parse_of_ok found parsed]
    refine find?_put_of_absent ?_ (find?_withBodies found)
    rw [withBodies, (counts_recordAll _ _).2.2]
    exact roomy

/-- What a failed parse brings in are bodies of sections that were closed before it stopped. -/
theorem closedBefore_of_new {error : ParseError}
    (failed : (Template.parse delimiters template).2 = .error error)
    (there : key ∈ (cache.withBodies delimiters template).keys) (isNew : key ∉ cache.keys) :
    ∃ body : Template.Body, body.IsClosedBefore delimiters template error.cause ∧
      key = .of body.delimiters body.source := by
  have known : Contains (fun present _ => present ∈ cache.keys ∨
      ∃ body : Template.Body, body.IsClosedBefore delimiters template error.cause ∧
        present = .of body.delimiters body.source) (cache.withBodies delimiters template) := by
    refine Contains.recordAll ?_ fun reported source nodes member => ?_
    · exact fun present _ member => .inl (List.mem_map_of_mem member)
    · obtain ⟨body, closed, rfl, rfl⟩ := Template.closedBefore_of_mem_events failed member
      exact .inr ⟨body, closed, rfl⟩
  obtain ⟨⟨_, kept⟩, member, rfl⟩ := List.mem_map.mp there
  exact (known _ kept member).resolve_left isNew

/-- A template that was parsed is in the cache, and parsing it again is one question that the cache
answers with the same nodes. A template that cannot be parsed is one question that the cache could
not answer; it is not in the cache, parsing it again comes to the same report, and all that is new
in the cache are bodies of its sections that were closed before. -/
theorem residue_of_parse (roomy : cache.capacity ≠ some 0) (delimiters : Delimiters)
    (template : Text) :
    let first := cache.parse delimiters template
    let second := first.cache.parse delimiters template
    (∀ nodes, first.result = .ok nodes →
      first.cache.contains (.of delimiters template) = true ∧
        second.result = .ok nodes ∧
        second.cache.hits = first.cache.hits + 1 ∧
        second.cache.misses = first.cache.misses ∧
        second.cache.entries.Perm first.cache.entries) ∧
    (∀ error, first.result = .error error →
      first.cache.hits = cache.hits ∧
        first.cache.misses = cache.misses + 1 ∧
        first.cache.contains (.of delimiters template) = false ∧
        (∀ key ∈ first.cache.keys, key ∉ cache.keys →
          ∃ body : Template.Body, body.IsClosedBefore delimiters template error.cause ∧
            key = .of body.delimiters body.source) ∧
        second.result = .error error) := by
  refine ⟨fun nodes parsed => ?_, fun error failed => ?_⟩
  · have found := find?_parse roomy parsed
    rw [parse_eq_of_present found]
    exact ⟨by rw [contains, found]; rfl, rfl, rfl, rfl, entries_hit_perm found⟩
  · cases found : cache.find? (.of delimiters template) with
    | some present =>
      rw [parse_of_present found] at failed
      cases failed
    | none =>
      rw [parse_of_absent found] at failed
      have missed := misses_parse_of_absent found
      have absent := find?_withBodies found
      rw [cache_parse_of_error found failed] at missed ⊢
      rw [parse_of_absent absent]
      refine ⟨(counts_recordAll _ _).1, missed, by rw [contains, absent]; rfl, ?_, failed⟩
      exact fun key there isNew => closedBefore_of_new failed there isNew

/-- A section with a text in it. -/
def letterSection : Text :=
  .of "\x7b\x7b#s\x7d\x7db\x7b\x7b/s\x7d\x7d"

/-- Where there is room for one entry, that is the template and not its section. -/
theorem residue_of_parse_letterSection :
    (empty (some 1)).capacity ≠ some 0 ∧
      ((empty (some 1)).parse .standard letterSection).cache.contains
        (.of .standard letterSection) = true := by
  have roomy : (empty (some 1)).capacity ≠ some 0 := by
    decide
  have parsed : Template.parse .standard letterSection =
      ([.bodyParsed .standard (.of "b") [.literal (.of "b")]],
        .ok [.block (.of "s") false (.of "b") .standard (some [.literal (.of "b")])]) := by
    cbv
  have result := (parse_empty (some 1) .standard letterSection).trans (congrArg Prod.snd parsed)
  exact ⟨roomy, ((residue_of_parse roomy .standard letterSection).1 _ result).1⟩

end Parse

end Cache

end Stencil
