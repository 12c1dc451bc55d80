import Stencil.Decimal.Binary64
import Stencil.Value.Key

/-!
# Values

A template is rendered against values. Most are plain data. Mappings, sets and lambdas have an
identity: a mapping can be written to, a set can gain and lose items, a lambda counts its calls, and
all of them can be reached along several ways. A value holds only their address, and the `Store`
holds what is there.

An object offers members. A member is stored as a value or computed by a method each time it is
asked for. What a template can do with a value depends on its kind alone.
-/

namespace Stencil

/-- What only a view computes: from its own template, its name or its files. -/
inductive ViewMethod where
  /-- The text of the view's template. -/
  | template
  /-- The name of the view's template file, derived from the given name of its class. -/
  | fileName (className : Text)
  /-- The view's template, rendered. -/
  | render
  /-- The text of a partial of the view. -/
  | partialText
  deriving DecidableEq, Repr

/-- The functions of a set that can do something with what a template gives to them. -/
inductive SetFunction where
  /-- Puts a single thing into the set. -/
  | add
  /-- Takes a single thing out of the set, if it is there. -/
  | discard
  /-- Takes a single thing out of the set, and fails if it is not there. -/
  | remove
  /-- Puts the items of several things into the set. -/
  | addAll
  /-- Takes the items of several things out of the set. -/
  | removeAll
  deriving DecidableEq, Repr

/-- A function that a value brings along. -/
inductive BuiltIn where
  /-- It takes nothing that a template can give. -/
  | refusing
  /-- It changes the set at an address. -/
  | ofSet (function : SetFunction) (address : Nat)
  deriving DecidableEq, Repr

/-- What an object is to its users. -/
inductive Role where
  | thing
  /-- It can be called. -/
  | callable
  /-- It is a class: what it offers is common to the things that it makes when it is called. -/
  | maker
  deriving DecidableEq, Repr

mutual

/-- A value that a template can be rendered against. -/
inductive Value where
  | null
  | bool (value : Bool)
  | int (value : Int)
  | float (number : Binary64)
  | complex (real imaginary : Binary64)
  | text (text : Text)
  | bytes (octets : List UInt8)
  | date (date : Date)
  | duration (length : Duration)
  | list (items : List Value)
  | tuple (items : List Value)
  /-- The numbers from zero up to a bound; there are none below zero. -/
  | range (bound : Int)
  /-- A set, whose items can come and go. -/
  | set (address : Nat)
  /-- A mapping that can be written to. -/
  | mapping (address : Nat)
  /-- A mapping that cannot be written to. -/
  | frozen (entries : List (Key × Value))
  | lambda (address : Nat)
  /-- A function that a value brings along. -/
  | builtIn (function : BuiltIn)
  /-- Anything with members: an instance of a class, or a class itself. -/
  | object (members : List (Text × Member)) (shown : Text) (truth : Bool) (role : Role)
  /-- The cache of parsed templates. -/
  | cache

/-- What an object offers under a name. -/
inductive Member where
  | stored (value : Value)
  | computed (method : Method)

/-- What happens when a computed member is asked for. -/
inductive Method where
  | returns (value : Value)
  | raises (message : Text)
  /-- The method answers with what its object has under a name, which may be a private one. -/
  | own (name : Text)
  | ofView (method : ViewMethod)
  /-- Forgets the parsed templates. -/
  | clearsCache
  /-- The method cannot be called without arguments. -/
  | needsArguments

end

instance : Inhabited Value := ⟨.null⟩

/-- The kinds of value that templates tell apart. -/
inductive Kind where
  | scalar
  | mapping
  | sequence
  | lambda
  | object
  deriving DecidableEq, Repr

namespace Value

/-- The kind of a value. -/
def kind : Value → Kind
  | .null | .bool _ | .int _ | .float _ | .complex _ _ | .text _ | .bytes _ => .scalar
  | .mapping _ | .frozen _ => .mapping
  | .list _ | .tuple _ | .range _ => .sequence
  | .lambda _ | .builtIn _ | .object _ _ _ .callable => .lambda
  | .date _ | .duration _ | .set _ | .object _ _ _ .thing | .object _ _ _ .maker | .cache => .object

/-- The items of a sequence. -/
def items? : Value → Option (List Value)
  | .list items | .tuple items => some items
  | .range bound => some ((List.range bound.toNat).map fun (index : Nat) => .int index)
  | _ => none

mutual

/-- Whether a value says the same for ever. A mapping that cannot be written to may still be the
face of one that can. -/
def isFixed : Value → Bool
  | .list _ | .set _ | .mapping _ | .frozen _ => false
  | .tuple items => areFixed items
  | _ => true

/-- Whether several values say the same for ever. -/
def areFixed : List Value → Bool
  | [] => true
  | item :: items => item.isFixed && areFixed items

end

end Value

/-- What a lambda does when it is called, one thing after the other. What comes later may depend on
what was found before. -/
inductive Behaviour where
  | returns (value : Value)
  | raises (message : Text)
  /-- It goes by how often it has been called. -/
  | counts (next : Nat → Behaviour)
  /-- It has a text rendered. -/
  | renders (text : Text) (next : Text → Behaviour)
  /-- It has a text rendered, and goes on without one if that fails. -/
  | tries (text : Text) (next : Option Text → Behaviour)
  /-- It reads what the mapping at an address shows under a name. -/
  | reads (address : Nat) (name : Text) (next : Option Text → Behaviour)
  /-- It writes a value into the mapping at an address. -/
  | writes (address : Nat) (name : Text) (value : Value) (next : Behaviour)

end Stencil
