import Stencil.Decimal.Shortest
import Stencil.Text.Quoted
import Stencil.Value.Store

/-!
# Values as text

A value has two texts. `display` is what a template outputs: a text is output as it is. `describe`
is how a value is shown inside another one: there a text is quoted. A mapping that contains itself
is shown as `{...}` where it comes up again; a chain of references longer than there are mappings
and sets must have come back to one of them.
-/

namespace Stencil.Value

open Text (joinWith)

/-- The separator between the parts of a container. -/
def comma : Text :=
  .of ", "

/-- Parts of a container between brackets. -/
def bracketed (left right : Char) (parts : List Text) : Text :=
  .char left :: joinWith comma parts ++ [.char right]

/-- A truth value as text. -/
def truthText (value : Bool) : Text :=
  if value then Text.of "True" else Text.of "False"

/-- A value without anything as text. -/
def nullText : Text :=
  Text.of "None"

/-- A date as it is shown inside other values. -/
def describeDate (date : Date) : Text :=
  Text.of "datetime.date" ++
    bracketed '(' ')' [Text.ofNat date.year, Text.ofNat date.month, Text.ofNat date.day]

/-- A key as it is shown in a mapping. -/
def describeKey : Key → Text
  | .text content => Text.Quoted.quote content
  | .int value => Text.ofInt value
  | .bool value => truthText value
  | .null => nullText
  | .float number => Decimal.write number
  | .date day => describeDate day

/-- The items of a tuple; a single one is followed by a comma. -/
def describeTuple : List Text → Text
  | [only] => .of "(" ++ only ++ .of ",)"
  | parts => bracketed '(' ')' parts

/-- An entry of a mapping from the texts of its key and its value. -/
def entryText (key : Key) (value : Text) : Text :=
  describeKey key ++ .of ": " ++ value

/-- How what values refer to is shown. -/
structure References where
  mapping : Nat → Text
  set : Nat → Text

mutual

/-- How a value is shown inside another one, given how what it refers to is shown. -/
def describeWith (references : References) : Value → Text
  | .null => nullText
  | .bool value => truthText value
  | .int value => Text.ofInt value
  | .float number => Decimal.write number
  | .complex real imaginary => Decimal.writeComplex real imaginary
  | .text content => Text.Quoted.quote content
  | .bytes octets => Text.Quoted.quoteOctets octets
  | .date day => describeDate day
  | .list items => bracketed '[' ']' (describeAllWith references items)
  | .tuple items => describeTuple (describeAllWith references items)
  | .duration length => length.text
  | .range bound => Text.of "range" ++ bracketed '(' ')' [Text.ofNat 0, Text.ofInt bound]
  | .set address => references.set address
  | .mapping address => references.mapping address
  | .frozen entries =>
    Text.of "mappingproxy(" ++ bracketed '{' '}' (describeEntriesWith references entries) ++
      .of ")"
  | .lambda _ => Text.of "<lambda>"
  | .builtIn _ => Text.of "<built-in method>"
  | .object _ shown _ _ => shown
  | .cache => Text.of "<cache>"

/-- How several values are shown. -/
def describeAllWith (references : References) : List Value → List Text
  | [] => []
  | item :: items => describeWith references item :: describeAllWith references items

/-- How the entries of a mapping are shown. -/
def describeEntriesWith (references : References) : List (Key × Value) → List Text
  | [] => []
  | (key, value) :: entries =>
    entryText key (describeWith references value) :: describeEntriesWith references entries

end

/-- The items of a set; a set without items has no brackets. -/
def describeSet (items : List Text) : Text :=
  if items = [] then Text.of "set()" else bracketed '{' '}' items

/-- How what values refer to is shown, down to a depth of references. -/
def references (store : Store) : Nat → References
  | 0 => ⟨fun _ => Text.of "\x7b...\x7d", fun _ => Text.of "set(...)"⟩
  | depth + 1 =>
    ⟨fun address =>
      bracketed '{' '}' (describeEntriesWith (references store depth) (store.entries address)),
      fun address => describeSet (describeAllWith (references store depth) (store.items address))⟩

/-- How all that values refer to is shown. -/
def allReferences (store : Store) : References :=
  references store (store.mappings.size + store.sets.size)

/-- How a value is shown inside another one. -/
def describe (store : Store) (value : Value) : Text :=
  describeWith (allReferences store) value

/-- The text of a value that is not nothing. A mapping that cannot be written to has the text of the
mapping alone. -/
def shown (store : Store) : Value → Text
  | .text content => content
  | .date day => day.text
  | .frozen entries => bracketed '{' '}' (describeEntriesWith (allReferences store) entries)
  | value => value.describe store

/-- What a template outputs for a value. Nothing is output for a missing value. -/
def display (store : Store) : Value → Text
  | .null => []
  | value => value.shown store

end Stencil.Value
