import Stencil.Delimiters
import Stencil.Value.Basic

/-!
# Parsed templates

A parsed template is a sequence of nodes. A block keeps its body twice: as the text it was written
in, which is what a function that stands for the block is given, and as the nodes it was parsed
into, which is what is rendered otherwise. A body that has no nodes yet is parsed when it is
rendered.
-/

namespace Stencil

/-- One piece of a parsed template. -/
inductive Node where
  /-- Text that is output as it is. -/
  | literal (text : Text)
  /-- A named value, made safe for markup if it is escaped. -/
  | interpolation (name : Text) (escaped : Bool)
  /-- A body that is rendered according to a named value: as often as the value asks for, or, when
  inverted, just if there is no such value. -/
  | block (name : Text) (inverted : Bool) (source : Text) (delimiters : Delimiters)
      (body : Option (List Node))
  /-- Another template, put in place with every line indented. -/
  | inclusion (name : Text) (indent : Text)
  /-- Something that is no piece of a template. -/
  | foreign (value : Value)
  deriving Inhabited

namespace Node

/-- A literal node, unless there is no text to put into it. -/
def literals (text : Text) : List Node :=
  if text = [] then [] else [.literal text]

end Node

end Stencil
