import Stencil.Text.Basic

/-!
# Names of files

A file system names files by octets and does not ask what they mean. A text stands for the octets of
its UTF-8, and the surrogates of one block stand for the octets that are no part of any UTF-8, so
that every name has a text. Several texts can stand for one name; `FileName.text` gives the one in
which as much as possible is characters.
-/

namespace Stencil

/-- The name of a file. -/
abbrev FileName := List UInt8

namespace FileName

/-- The octets that a code point stands for. Of the surrogates only those whose numbers end in an
octet beyond ASCII stand for one. -/
def octets? : CodePoint → Option (List UInt8)
  | .char character => some (String.utf8EncodeChar character)
  | .surrogate index =>
    if 0x480 ≤ index.val ∧ index.val < 0x500 then some [UInt8.ofNat (index.val - 0x400)] else none

/-- The name that a text stands for, if it stands for one. -/
def ofText? (text : Text) : Option FileName :=
  (text.mapM octets?).map List.flatten

/-- The surrogate that stands for an octet beyond ASCII. -/
def standIn (octet : UInt8) : CodePoint :=
  .surrogate (Fin.ofNat 0x800 (octet.toNat + 0x400))

/-- The character that octets begin with as UTF-8. -/
def character? (octets : List UInt8) : Option Char :=
  (ByteArray.mk (octets.take 4).toArray).utf8DecodeChar? 0

/-- A text that stands for a name. -/
def text : FileName → Text
  | [] => []
  | first :: rest =>
    match character? (first :: rest) with
    | some character => .char character :: text (rest.drop (character.utf8Size - 1))
    | none => standIn first :: text rest
termination_by name => name.length
decreasing_by
  · simp only [List.length_drop, List.length_cons]
    omega
  · exact Nat.lt_succ_self rest.length

end FileName

end Stencil
