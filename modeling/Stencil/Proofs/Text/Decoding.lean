import Mathlib.Logic.ExistsUnique
import Stencil.Proofs.Text.Entity

/-!
# Reading escaped text back

One pass from left to right puts back the characters that references stand for (`decode`). It undoes
escaping, whatever the text looks like (`decode_escape`): ampersands are escaped too, so what looks
like a reference in a text is none in the escaped one.

Escaping treats every character by itself. It comes to the same if the five characters are replaced
in the whole text one after the other (`escape_eq_replaced`). References hold an ampersand
themselves, but the ampersand is the first to be replaced.
-/

namespace Stencil

/-- A text with another one in every place of a code point. -/
def Text.replace (mark : CodePoint) (replacement text : Text) : Text :=
  text.flatMap fun point => if point = mark then replacement else [point]

namespace Text.Entity

/-- The characters that have a reference, each with its reference. -/
def table : List (CodePoint × Text) :=
  ([.char '&', .char '<', .char '>', .char '"', .char '\''] : Text).zip references

/-- The entries of the table. -/
theorem table_eq :
    table = [(.char '&', .of "&amp;"), (.char '<', .of "&lt;"), (.char '>', .of "&gt;"),
      (.char '"', .of "&quot;"), (.char '\'', .of "&#x27;")] :=
  rfl

/-- A code point becomes its reference, or it has none and stays as it is. -/
theorem encode_mem_table (point : CodePoint) :
    (point, encode point) ∈ table ∨
      encode point = [point] ∧ ∀ entry ∈ table, entry.1 ≠ point := by
  have encodes : ∀ entry ∈ table, encode entry.1 = entry.2 := by decide
  by_cases listed : ∃ entry ∈ table, entry.1 = point
  · obtain ⟨entry, isEntry, rfl⟩ := listed
    exact .inl (encodes entry isEntry ▸ isEntry)
  · have unlisted : ∀ entry ∈ table, entry.1 ≠ point := fun entry isEntry same =>
      listed ⟨entry, isEntry, same⟩
    refine .inr ⟨?_, unlisted⟩
    simp only [table_eq, List.forall_mem_cons, ne_comm (b := point)] at unlisted
    simp [encode, unlisted]

/-! ## One replacement after the other -/

/-- A text in which characters are replaced one after the other. -/
def replacedBy (rules : List (CodePoint × Text)) (text : Text) : Text :=
  rules.foldl (fun replaced rule => Text.replace rule.1 rule.2 replaced) text

/-- Replacing works piece by piece. -/
theorem replacedBy_append (rules : List (CodePoint × Text)) (first second : Text) :
    replacedBy rules (first ++ second) = replacedBy rules first ++ replacedBy rules second := by
  induction rules generalizing first second with
  | nil => rfl
  | cons rule rules inductionHypothesis =>
    have once : Text.replace rule.1 rule.2 (first ++ second) =
        Text.replace rule.1 rule.2 first ++ Text.replace rule.1 rule.2 second :=
      List.flatMap_append
    simp only [replacedBy, List.foldl_cons, once] at inductionHypothesis ⊢
    exact inductionHypothesis _ _

/-- What no rule is about stays as it is. -/
theorem replacedBy_of_forall_ne {rules : List (CodePoint × Text)} {point : CodePoint}
    (unlisted : ∀ rule ∈ rules, rule.1 ≠ point) : replacedBy rules [point] = [point] := by
  induction rules with
  | nil => rfl
  | cons rule rules inductionHypothesis =>
    have kept : Text.replace rule.1 rule.2 [point] = [point] := by
      simp [Text.replace, (unlisted rule List.mem_cons_self).symm]
    rw [replacedBy, List.foldl_cons, kept]
    exact inductionHypothesis fun other member => unlisted other (List.mem_cons_of_mem rule member)

/-- A character is not replaced again in what it was replaced by. -/
theorem replacedBy_singleton (point : CodePoint) : replacedBy table [point] = encode point := by
  have replaced : ∀ entry ∈ table, replacedBy table [entry.1] = entry.2 := by decide
  rcases encode_mem_table point with isEntry | ⟨same, unlisted⟩
  · exact replaced _ isEntry
  · rw [same, replacedBy_of_forall_ne unlisted]

/-- Escaping replaces the five characters one after the other, the ampersand first. -/
theorem escape_eq_replaced (text : Text) : escape text = replacedBy table text := by
  induction text with
  | nil => rfl
  | cons point text inductionHypothesis =>
    calc escape (point :: text)
        = encode point ++ escape text := List.flatMap_cons
      _ = replacedBy table [point] ++ replacedBy table text := by
          rw [replacedBy_singleton, inductionHypothesis]
      _ = replacedBy table (point :: text) := (replacedBy_append table [point] text).symm

/-! ## Decoding -/

/-- The character whose reference a text begins with, and what follows the reference. -/
def referenceAt? (text : Text) : Option (CodePoint × Text) :=
  table.findSome? fun entry => (Text.after? entry.2 text).map (entry.1, ·)

/-- A character is found at the start of a text only if the text begins with its reference. -/
theorem exists_of_referenceAt? {text behind : Text} {character : CodePoint}
    (found : referenceAt? text = some (character, behind)) :
    ∃ reference, (character, reference) ∈ table ∧ text = reference ++ behind := by
  obtain ⟨⟨_, reference⟩, isEntry, begins⟩ := List.exists_of_findSome?_eq_some found
  obtain ⟨_, after, same⟩ := Option.map_eq_some_iff.mp begins
  cases same
  exact ⟨reference, isEntry, Text.after?_eq_some_iff.mp after⟩

/-- A reference takes up some of the text. -/
theorem length_lt_of_referenceAt? {text behind : Text} {character : CodePoint}
    (found : referenceAt? text = some (character, behind)) : behind.length < text.length := by
  obtain ⟨reference, isEntry, rfl⟩ := exists_of_referenceAt? found
  have nonempty : ∀ entry ∈ table, 0 < entry.2.length := by decide
  have positive : 0 < reference.length := nonempty _ isEntry
  rw [List.length_append]
  omega

/-- A text in which one pass from left to right puts characters in the places of their
references. -/
def decode (text : Text) : Text :=
  match text with
  | [] => []
  | point :: rest => match found : referenceAt? (point :: rest) with
    | some (character, behind) =>
      have _ := length_lt_of_referenceAt? found
      character :: decode behind
    | none => point :: decode rest
termination_by text.length
decreasing_by
  · assumption
  · exact Nat.lt_succ_self rest.length

/-- The pass puts a character in the place of its reference and goes on behind that. -/
theorem decode_of_referenceAt? {text behind : Text} {character : CodePoint}
    (found : referenceAt? text = some (character, behind)) :
    decode text = character :: decode behind := by
  cases text with
  | nil => exact absurd (length_lt_of_referenceAt? found) (Nat.not_lt_zero _)
  | cons point rest =>
    rw [decode]
    split
    · next other =>
      obtain ⟨rfl, rfl⟩ := Prod.mk.inj (Option.some.inj (other.symm.trans found))
      rfl
    · next absent => simp [found] at absent

/-- The pass leaves a code point where no reference begins. -/
theorem decode_of_referenceAt?_eq_none {point : CodePoint} {rest : Text}
    (absent : referenceAt? (point :: rest) = none) :
    decode (point :: rest) = point :: decode rest := by
  rw [decode]
  split
  · next found => simp [absent] at found
  · rfl

/-- A reference is read as the character that it stands for. -/
theorem referenceAt?_reference {entry : CodePoint × Text} (isEntry : entry ∈ table) (rest : Text) :
    referenceAt? (entry.2 ++ rest) = some (entry.1, rest) := by
  simp only [table_eq, List.mem_cons, List.not_mem_nil, or_false] at isEntry
  rcases isEntry with rfl | rfl | rfl | rfl | rfl <;> rfl

/-- A reference begins with an ampersand only. -/
theorem referenceAt?_eq_none {point : CodePoint} (notAmpersand : .char '&' ≠ point) (rest : Text) :
    referenceAt? (point :: rest) = none := by
  have begins : ∀ entry ∈ table, entry.2 = .char '&' :: entry.2.tail := by decide
  refine List.findSome?_eq_none_iff.mpr fun entry isEntry => ?_
  rw [begins entry isEntry, Text.after?, if_neg notAmpersand]
  rfl

/-- What a code point was escaped to is read as that code point. -/
theorem decode_encode_append (point : CodePoint) (rest : Text) :
    decode (encode point ++ rest) = point :: decode rest := by
  rcases encode_mem_table point with isEntry | ⟨same, unlisted⟩
  · exact decode_of_referenceAt? (referenceAt?_reference isEntry rest)
  · have notAmpersand : .char '&' ≠ point := unlisted (.char '&', .of "&amp;") (by decide)
    rw [same]
    exact decode_of_referenceAt?_eq_none (referenceAt?_eq_none notAmpersand rest)

/-- Decoding gives back what was escaped. -/
theorem decode_escape (text : Text) : decode (escape text) = text := by
  induction text with
  | nil => rw [escape, List.flatMap_nil, decode]
  | cons point text inductionHypothesis =>
    calc decode (escape (point :: text))
        = decode (encode point ++ escape text) := congrArg decode List.flatMap_cons
      _ = point :: text := by rw [decode_encode_append, inductionHypothesis]

/-! ## Escaping -/

/-- No text begins with two references. -/
theorem reference_unique {first second text : Text} (isFirst : first ∈ references)
    (isSecond : second ∈ references) (begins : first <+: text) (alsoBegins : second <+: text) :
    first = second := by
  have apart : ∀ first ∈ references, ∀ second ∈ references, first <+: second → first = second := by
    decide
  rcases List.prefix_or_prefix_of_prefix begins alsoBegins with shorter | longer
  · exact apart first isFirst second isSecond shorter
  · exact (apart second isSecond first isFirst longer).symm

/-- Escaping leaves no markup, and an ampersand only where exactly one reference begins. It is
undone by one pass over the references, so different texts are escaped to different ones, and it can
be done piece by piece, or by one replacement after the other. -/
theorem escape_faithful (first second : Text) :
    (∀ point ∈ escape first, ¬IsMarkup point) ∧
      (∀ before behind, escape first = before ++ .char '&' :: behind →
        ∃! reference, reference ∈ references ∧ reference <+: .char '&' :: behind) ∧
      decode (escape first) = first ∧
      (escape first = escape second → first = second) ∧
      escape (first ++ second) = escape first ++ escape second ∧
      escape first = replacedBy table first := by
  refine ⟨fun point member isMarkup => not_mem_escape isMarkup first member, ?_,
    decode_escape first, ?_, escape_append first second, escape_eq_replaced first⟩
  · intro before behind splits
    obtain ⟨reference, isReference, begins⟩ := begins_of_mem_escape splits
    refine ⟨reference, ⟨isReference, begins⟩, ?_⟩
    rintro other ⟨isOther, otherBegins⟩
    exact reference_unique isOther isReference otherBegins begins
  · intro same
    calc first = decode (escape first) := (decode_escape first).symm
      _ = decode (escape second) := congrArg decode same
      _ = second := decode_escape second

/-- What looks like a reference is escaped once, and decoded once. -/
example : escape (.of "&lt;<") = .of "&amp;lt;&lt;" := by decide

end Text.Entity

end Stencil
