import Stencil.Decimal.Numeral
import Stencil.Json.Error
import Stencil.Value.Datum

/-!
# Reading JSON

The reader accepts JSON with three more numbers, the infinities and the undefined number, by their
names. A number without fraction and exponent is an integer of any size. Of several members of one
name the last one counts, in the place of the first.

Each reader takes a text and returns what it read together with the rest of the text; an error
comes with the text from its place on.
-/

namespace Stencil.Json

/-- What was read and the rest, or an error and the text from its place on. -/
abbrev Reading (α : Type) := Except (Cause × Text) (α × Text)

/-- The white space of JSON. -/
def isSpace (point : CodePoint) : Bool :=
  point == .char ' ' || point == .char '\t' || point == .char '\n' || point == .char '\r'

/-- A text without the white space that it begins with. -/
def skipSpace (text : Text) : Text :=
  text.dropWhile isSpace

/-- The value of a hexadecimal digit. -/
def hexValue? : CodePoint → Option Nat
  | .surrogate _ => none
  | .char digit =>
    if digit.isDigit then some (digit.toNat - '0'.toNat)
    else if 'a' ≤ digit ∧ digit ≤ 'f' then some (digit.toNat - 'a'.toNat + 10)
    else if 'A' ≤ digit ∧ digit ≤ 'F' then some (digit.toNat - 'A'.toNat + 10)
    else none

/-- The value of hexadecimal digits. -/
def hexNumber? (digits : Text) : Option Nat :=
  digits.foldlM (fun value digit => (hexValue? digit).map (value * 16 + ·)) 0

/-- The character that a letter after a backslash stands for. -/
def escaped? : CodePoint → Option Char
  | .surrogate _ => none
  | .char letter =>
    if letter = '"' ∨ letter = '\\' ∨ letter = '/' then some letter
    else if letter = 'b' then some '\x08'
    else if letter = 'f' then some '\x0c'
    else if letter = 'n' then some '\n'
    else if letter = 'r' then some '\r'
    else if letter = 't' then some '\t'
    else none

/-- The code units of a string up to its closing quote. The text from the opening quote on is given
for the report of a string that does not end. -/
def readUnits (whole : Text) : Text → Reading (List Nat)
  | [] => .error (.unterminatedString, whole)
  | .char '"' :: rest => .ok ([], rest)
  | .char '\\' :: .char 'u' :: first :: second :: third :: fourth :: rest =>
    match hexNumber? [first, second, third, fourth] with
    | some unit =>
      if rest = [] then
        .error (.malformedCode, .char 'u' :: first :: second :: third :: fourth :: rest)
      else (readUnits whole rest).map fun (units, after) => (unit :: units, after)
    | none => .error (.malformedCode, .char 'u' :: first :: second :: third :: fourth :: rest)
  | .char '\\' :: .char 'u' :: rest => .error (.malformedCode, .char 'u' :: rest)
  | [.char '\\'] => .error (.unterminatedString, whole)
  | .char '\\' :: letter :: rest =>
    match escaped? letter with
    | some character =>
      (readUnits whole rest).map fun (units, after) => (character.toNat :: units, after)
    | none => .error (.unknownEscape, .char '\\' :: letter :: rest)
  | point :: rest =>
    if point.toNat < 0x20 then .error (.controlCharacter, point :: rest)
    else (readUnits whole rest).map fun (units, after) => (point.toNat :: units, after)

/-- Code units as text. Two surrogates that belong together are one character. -/
def textOfUnits : List Nat → Text
  | [] => []
  | [unit] => (CodePoint.ofNat? unit).toList
  | first :: second :: rest =>
    if 0xD800 ≤ first ∧ first < 0xDC00 ∧ 0xDC00 ≤ second ∧ second < 0xE000 then
      .char (Char.ofNat (0x10000 + (first - 0xD800) * 0x400 + (second - 0xDC00))) ::
        textOfUnits rest
    else (CodePoint.ofNat? first).toList ++ textOfUnits (second :: rest)

/-- A string, given the text from its opening quote on. -/
def readString (text : Text) : Reading Text :=
  (readUnits text (text.drop 1)).map fun (units, rest) => (textOfUnits units, rest)

/-- A number, or an error if the text does not begin with one. -/
def readNumber (text : Text) : Reading Datum :=
  let (isNegative, unsigned) := Decimal.minus text
  let (whole, afterWhole) : Text × Text := match unsigned with
    | .char '0' :: rest => ([.char '0'], rest)
    | _ => Decimal.digits unsigned
  if whole = [] then .error (.noValue, text)
  else
    let (fraction, afterFraction) := Decimal.fraction 1 afterWhole
    let (exponent, rest) := Decimal.exponent afterFraction
    let numeral : Decimal.Numeral := ⟨whole, fraction, exponent⟩
    if !numeral.isInteger then .ok (.float (numeral.toBinary64 isNegative), rest)
    else if Decimal.digitLimit < whole.length then .error (.numeralTooLong, text)
    else
      let magnitude : Int := numeral.magnitude
      .ok (.int (if isNegative then -magnitude else magnitude), rest)

/-- The values that are written as names. -/
def names : List (Text × Datum) :=
  [(Text.of "null", .null), (Text.of "true", .bool true), (Text.of "false", .bool false),
    (Text.of "NaN", .float .undefined),
    (Text.of "Infinity", .float .infinity),
    (Text.of "-Infinity", .float (Binary64.infinity.withSign true))]

/-- A value that is written as a name. -/
def readName? (text : Text) : Option (Datum × Text) :=
  names.findSome? fun (name, value) => (Text.after? name text).map fun rest => (value, rest)

mutual

/-- A value, given a bound on the readers that are still to be called: two for each character
suffice, one for what begins with it and one for its first part. -/
def readValue : Nat → Text → Reading Datum
  | 0, text => .error (.noValue, text)
  | bound + 1, text => match text with
    | .char '"' :: _ => (readString text).map fun (content, rest) => (.text content, rest)
    | .char '{' :: inside =>
      match skipSpace inside with
      | .char '}' :: rest => .ok (.mapping [], rest)
      | first => (readMembers bound first).map fun (members, rest) =>
        (.mapping (Entries.ofList members), rest)
    | .char '[' :: inside =>
      match skipSpace inside with
      | .char ']' :: rest => .ok (.list [], rest)
      | first => (readItems bound first).map fun (items, rest) => (.list items, rest)
    | _ => match readName? text with
      | some found => .ok found
      | none => readNumber text

/-- The members of an object up to its closing brace. -/
def readMembers : Nat → Text → Except (Cause × Text) (List (Key × Datum) × Text)
  | 0, text => .error (.noName, text)
  | bound + 1, text => match text with
    | .char '"' :: _ => do
      let (name, afterName) ← readString text
      match skipSpace afterName with
      | .char ':' :: afterColon =>
        let (value, afterValue) ← readValue bound (skipSpace afterColon)
        match skipSpace afterValue with
        | .char '}' :: rest => return ([(.text name, value)], rest)
        | .char ',' :: afterComma =>
          let (members, rest) ← readMembers bound (skipSpace afterComma)
          return ((.text name, value) :: members, rest)
        | other => .error (.noComma, other)
      | other => .error (.noColon, other)
    | _ => .error (.noName, text)

/-- The items of an array up to its closing bracket. -/
def readItems : Nat → Text → Except (Cause × Text) (List Datum × Text)
  | 0, text => .error (.noValue, text)
  | bound + 1, text => do
    let (item, afterItem) ← readValue bound text
    match skipSpace afterItem with
    | .char ']' :: rest => return ([item], rest)
    | .char ',' :: afterComma =>
      let (items, rest) ← readItems bound (skipSpace afterComma)
      return (item :: items, rest)
    | other => .error (.noComma, other)

end

/-- Reads a document. -/
def read (document : Text) : Except Error Datum :=
  let failure {α : Type} (cause : Cause) (place : Text) : Except Error α :=
    .error ⟨cause, document.take (document.length - place.length)⟩
  match document with
  | .char '\uFEFF' :: _ => failure .byteOrderMark document
  | _ => match readValue (2 * document.length + 2) (skipSpace document) with
    | .error (cause, place) => failure cause place
    | .ok (value, rest) => match skipSpace rest with
      | [] => .ok value
      | extra => failure .extraData extra

/-! ## Objects that are read -/

/-- A number is no object. -/
theorem readNumber_ne_mapping (text rest : Text) (entries : Record) :
    readNumber text ≠ .ok (.mapping entries, rest) := by
  grind [readNumber]

/-- No object is written as a name. -/
theorem readName?_ne_mapping (text rest : Text) (entries : Record) :
    readName? text ≠ some (.mapping entries, rest) := by
  intro found
  obtain ⟨⟨name, value⟩, member, same⟩ := List.exists_of_findSome?_eq_some found
  obtain ⟨after, -, same⟩ := Option.map_eq_some_iff.mp same
  obtain ⟨rfl, -⟩ := Prod.mk.inj same
  simp [names] at member

/-- Where a value is an object, its names are different from each other. -/
theorem areDistinct_of_readValue {bound : Nat} {text rest : Text} {entries : Record}
    (found : readValue bound text = .ok (.mapping entries, rest)) :
    Entries.AreDistinct entries := by
  cases bound with
  | zero => cases found
  | succ bound =>
    unfold readValue at found
    split at found
    · rename_i content
      cases outcome : readString (.char '"' :: content) <;> rw [outcome] at found <;> cases found
    · rename_i inside
      split at found
      · cases found
        exact List.Pairwise.nil
      · cases outcome : readMembers bound (skipSpace inside) with
        | ok members =>
          rw [outcome] at found
          cases found
          exact Entries.areDistinct_ofList members.1
        | error cause =>
          rw [outcome] at found
          cases found
    · rename_i inside
      split at found
      · cases found
      · cases outcome : readItems bound (skipSpace inside) <;> rw [outcome] at found <;> cases found
    · split at found
      · rename_i named
        cases found
        exact absurd named (readName?_ne_mapping _ rest entries)
      · exact absurd found (readNumber_ne_mapping _ rest entries)

/-- Where a document is an object, its names are different from each other. -/
theorem areDistinct_of_read {document : Text} {entries : Record}
    (found : read document = .ok (.mapping entries)) : Entries.AreDistinct entries := by
  unfold read at found
  split at found
  · cases found
  · split at found
    · cases found
    · rename_i value rest outcome
      split at found
      · cases found
        exact areDistinct_of_readValue outcome
      · cases found

end Stencil.Json
