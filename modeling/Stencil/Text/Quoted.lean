import Stencil.Text.Printable

/-!
# Quoted texts

A text inside a container or a message is shown between quotes. The quote is a single one, except
that a text with a single quote and no double quote is put between double quotes. The chosen quote
and the backslash are escaped, line feed, carriage return and tab have their own escapes, and any
other character that is not printable is shown by its code in the shortest of three widths.
Octets are quoted by the same rule with every octet outside printable ASCII shown by its code.
-/

namespace Stencil.Text.Quoted

/-- One hexadecimal digit, in lower case. -/
def hexDigit (value : Nat) : Char :=
  if value < 10 then Char.ofNat (48 + value) else Char.ofNat (87 + value)

/-- The last `width` hexadecimal digits of a number, leading zeros included. -/
def hex : Nat → Nat → Text
  | 0, _ => []
  | width + 1, value => hex width (value / 16) ++ [.char (hexDigit (value % 16))]

/-- The quote that a text is put between. -/
def quoteFor (text : Text) : CodePoint :=
  if text.contains (.char '\'') && !text.contains (.char '"') then .char '"' else .char '\''

/-- A code point behind a backslash. -/
def behindBackslash (point : CodePoint) : Text :=
  [.char '\\', point]

/-- A code behind a backslash: a letter for its width, and its hexadecimal digits. -/
def code (letter : Char) (width value : Nat) : Text :=
  .char '\\' :: .char letter :: hex width value

/-- The escape that a quote, a backslash or a common control character has of its own. -/
def escape? (mark point : CodePoint) : Option Text :=
  if point = mark ∨ point = .char '\\' then some (behindBackslash point)
  else if point = .char '\n' then some (behindBackslash 'n')
  else if point = .char '\r' then some (behindBackslash 'r')
  else if point = .char '\t' then some (behindBackslash 't')
  else none

/-- A code point between quotes. -/
def encode (mark point : CodePoint) : Text :=
  match escape? mark point with
  | some escape => escape
  | none =>
    if isPrintable point then [point]
    else if point.toNat < 0x100 then code 'x' 2 point.toNat
    else if point.toNat < 0x10000 then code 'u' 4 point.toNat
    else code 'U' 8 point.toNat

/-- A text between quotes, with escapes for what could not be read back otherwise. -/
def quote (text : Text) : Text :=
  let mark := quoteFor text
  mark :: text.flatMap (encode mark) ++ [mark]

/-- The character whose code an octet is. -/
def ofOctet (octet : UInt8) : CodePoint :=
  .char (Char.ofNat octet.toNat)

/-- An octet between quotes. -/
def encodeOctet (mark : CodePoint) (octet : UInt8) : Text :=
  match escape? mark (ofOctet octet) with
  | some escape => escape
  | none =>
    if 32 ≤ octet.toNat && octet.toNat < 127 then [ofOctet octet]
    else code 'x' 2 octet.toNat

/-- Octets between quotes, marked by a leading `b`. -/
def quoteOctets (octets : List UInt8) : Text :=
  let mark := quoteFor (octets.map ofOctet)
  .char 'b' :: mark :: octets.flatMap (encodeOctet mark) ++ [mark]

end Stencil.Text.Quoted
