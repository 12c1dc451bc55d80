import Stencil.Decimal.Binary64
import Stencil.Value.Calendar

/-!
# Keys of mappings

A mapping is asked for names, which are texts, but data may bring along keys of other kinds. Keys
are told apart by what they are equal to: truth values count as the integers one and zero, and a
floating-point number that is integral counts as that integer. No key of another kind is equal to a
text, so a name finds text keys only.
-/

namespace Stencil

/-- What a mapping can hold a value under. -/
inductive Key where
  | text (text : Text)
  | int (value : Int)
  | bool (value : Bool)
  | null
  | float (number : Binary64)
  | date (date : Date)
  deriving DecidableEq, Repr

namespace Key

/-- The one form in which all keys that are equal to each other agree. -/
def normal : Key → Key
  | .bool value => .int (if value then 1 else 0)
  | .float number =>
    match number.toInt? with
    | some value => .int value
    | none => .float number
  | key => key

/-- Keys are compared in their normal form. -/
instance : BEq Key :=
  ⟨fun first second => decide (first.normal = second.normal)⟩

/-- Keys are equal if their normal forms are. -/
theorem beq_iff {first second : Key} : (first == second) = true ↔ first.normal = second.normal :=
  decide_eq_true_iff

/-- Equality of keys is an equivalence, since equality of their normal forms is. -/
instance : EquivBEq Key where
  rfl := beq_iff.mpr rfl
  symm same := beq_iff.mpr (beq_iff.mp same).symm
  trans first second := beq_iff.mpr ((beq_iff.mp first).trans (beq_iff.mp second))

/-- A number by which most keys that are not equal can be told apart. -/
instance : Hashable Key :=
  ⟨fun key => match key.normal with
    | .text content => hash content
    | .int value => hash value
    | .bool value => hash value
    | .null => 0
    | .float number => hash number.bits
    | .date day => hash (day.year, day.month, day.day)⟩

/-- Equal keys have the same number. -/
instance : LawfulHashable Key where
  hash_eq _ _ same := by
    simp only [hash, beq_iff.mp same]

/-- A text is equal to the same text and to no other key. -/
theorem beq_text {key : Key} {name : Text} : (key == .text name) = true ↔ key = .text name := by
  change decide (key.normal = .text name) = true ↔ _
  cases key with
  | float number =>
    cases integral : number.toInt? <;> simp [normal, integral]
  | _ => simp [normal]

end Key

end Stencil
