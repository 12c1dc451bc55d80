/-!
# Code points

A text is made of code points. Nearly all of them are characters. The others are the surrogates,
which stand for a character only in pairs; a format that writes characters by their codes can write
a surrogate alone, and then it is kept as what it is. It takes part in everything a character takes
part in but for one: it has no encoding, so a text with a surrogate in it cannot be written.
-/

namespace Stencil

/-- A character, or a surrogate that stands alone. -/
inductive CodePoint where
  | char (character : Char)
  /-- The surrogates are numbered from the first one on. -/
  | surrogate (index : Fin 0x800)
  deriving DecidableEq, Repr

namespace CodePoint

instance : Inhabited CodePoint := ⟨.char 'A'⟩

/-- Every character is a code point. -/
instance : Coe Char CodePoint := ⟨.char⟩

/-- The number of a code point. -/
def toNat : CodePoint → Nat
  | .char character => character.toNat
  | .surrogate index => 0xD800 + index

/-- The code point of a number; there are no code points beyond the last character. -/
def ofNat? (number : Nat) : Option CodePoint :=
  if surrogates : 0xD800 ≤ number ∧ number < 0xE000 then
    some (.surrogate ⟨number - 0xD800, by omega⟩)
  else if number.isValidChar then some (.char (Char.ofNat number))
  else none

/-- A code point is hashed as its number. -/
instance : Hashable CodePoint :=
  ⟨fun point => hash point.toNat⟩

/-- The character, unless it is a surrogate. -/
def char? : CodePoint → Option Char
  | .char character => some character
  | .surrogate _ => none

/-- A digit of the decimal numbers of programs. -/
def isDigit (point : CodePoint) : Bool :=
  point.char?.any Char.isDigit

/-- A letter from A to Z as the small letter, and all else as it is. -/
def toLower : CodePoint → CodePoint
  | .char character => .char character.toLower
  | .surrogate index => .surrogate index

end CodePoint

end Stencil
