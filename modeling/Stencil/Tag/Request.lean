import Stencil.Tag.Basic
import Stencil.Template.Node
import Stencil.Template.ParseError

/-!
# What a tag asks for

The sign of a tag decides what it asks for. Tags that ask for a value are part of running text;
all others organise the template, and only they can have a line to themselves.
-/

namespace Stencil.Tag

/-- What a tag asks for. -/
inductive Request where
  /-- These nodes in its place. -/
  | emit (nodes : List Node)
  /-- Other delimiters from here on. -/
  | change (delimiters : Delimiters)
  /-- A section that begins here. -/
  | opens (name : Text) (inverted : Bool)
  /-- The end of a section. -/
  | closes (name : Text)
  /-- Nothing that can be granted. -/
  | refused (cause : ParseError.Cause)

/-- Tags without a sign and tags with a brace or an ampersand ask for a value. -/
def isInterpolation (tag : Tag) : Bool :=
  match tag.form.sign with
  | none => true
  | some sign => sign == .char '{' || sign == .char '&'

/-- What a tag asks for, if it stands behind an indentation. -/
def request (indent : Text) (tag : Tag) : Request :=
  match tag.form.sign with
  | none => .emit [.interpolation tag.body true]
  | some sign =>
    if sign = .char '!' then .emit []
    else if sign = .char '{' ∨ sign = .char '&' then .emit [.interpolation tag.body false]
    else if sign = .char '>' then .emit [.inclusion tag.body indent]
    else if sign = .char '=' then
      match Text.words tag.body with
      | [opening, closing] => .change ⟨opening, closing⟩
      | _ => .refused .notTwoDelimiters
    else if sign = .char '#' then .opens tag.body false
    else if sign = .char '^' then .opens tag.body true
    else if sign = .char '/' then .closes tag.body
    else .refused (.unknownMarker sign)

end Stencil.Tag
